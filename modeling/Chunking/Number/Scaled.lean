/-
A quick way from decimal digits to a double. The digits are gathered into a word;
the word is rounded to a double, and that is multiplied with or divided by a power
of ten, which is a double too. With so many roundings the result is not always the
double nearest to the decimal, and the shortest text of a double is not always
read back as the same double.
-/

import Chunking.Number.Binary
import Chunking.Word

namespace Chunking.Number

/-- Digits gathered into a word, and the power of ten that the word is multiplied with. -/
structure Gathered where
  significand : Nat
  exponent : Int
  deriving DecidableEq, Repr

namespace Gathered

/-- The word with one more digit behind it, if that is a word again. -/
def push? (significand : Nat) (digit : Char) : Option Nat :=
  let next := significand * 10 + (digit.toNat - '0'.toNat)
  if next < Word.limit then some next else none

/-- Gathers digits in front of the point. From the first one on that does not fit, they only count
for the power of ten. -/
def whole : (significand : Nat) → List Char → Gathered
  | significand, [] => ⟨significand, 0⟩
  | significand, digit :: rest =>
    match push? significand digit with
    | some next => whole next rest
    | none => ⟨significand, rest.length + 1⟩

/-- Gathers digits behind the point. From the first one on that does not fit, they are left
out. -/
def fraction : Gathered → List Char → Gathered
  | gathered, [] => gathered
  | gathered, digit :: rest =>
    match push? gathered.significand digit with
    | some next => fraction ⟨next, gathered.exponent - 1⟩ rest
    | none => gathered

/-- The exponent of the greatest power of ten that is a double. -/
def greatestPower : Nat := 308

def powerOfTen (exponent : Nat) : Double :=
  Binary.ofDecimal false 1 exponent

/-- Divides by a power of ten, in two steps if the power is no double. A word that is divided by
the greatest power twice is zero, so no power needs more steps. -/
def shrink (value : Double) (places : Nat) : Double :=
  if places ≤ greatestPower then value.div (powerOfTen places)
  else
    (value.div (powerOfTen greatestPower)).div
      (powerOfTen (min (places - greatestPower) greatestPower))

/-- The double that the digits stand for, unless it is too large. -/
def toDouble? (gathered : Gathered) : Option Double :=
  let value : Double := Binary.ofNat gathered.significand
  match gathered.exponent with
  | .ofNat places =>
    if gathered.significand = 0 then some value
    else if greatestPower < places then none
    else
      let product := value.mul (powerOfTen places)
      if product.isFinite then some product else none
  | .negSucc places => some (shrink value (places + 1))

end Gathered

end Chunking.Number
