/-
Reading a binary number from a written numeral: a sign, digits with a point
among them, and an exponent. Infinity and the value that is no number have names,
in which case does not matter. The value is rounded once, from the exact decimal.
-/

import Chunking.Number.Binary

namespace Chunking.Number

/-- The value of a row of decimal digits. -/
def digitsValue (digits : List Char) : Nat :=
  digits.foldl (fun value digit => value * 10 + (digit.toNat - '0'.toNat)) 0

/-- No number of either format has a leading digit this far from the point, so nothing beyond is
worked out. -/
def farthestPlace : Int := 400

/-- The number nearest to a decimal that is given by its digits and a power of ten. -/
def nearest {format : Format} (negative : Bool) (digits : List Char) (exponent : Int) :
    Binary format :=
  let value := digitsValue digits
  let place := (Nat.toDigits 10 value).length + exponent
  if value = 0 ∨ place < -farthestPlace then Binary.signed negative 0
  else if farthestPlace < place then Binary.infinity negative
  else Binary.ofDecimal negative value exponent

/-- A whole number with an optional sign. -/
def signedInteger? (chars : List Char) : Option Int :=
  let unsigned (digits : List Char) : Option Nat :=
    if digits.isEmpty || !digits.all Char.isDigit then none else some (digitsValue digits)
  match chars with
  | '-' :: digits => (unsigned digits).map fun value => -(value : Int)
  | '+' :: digits => (unsigned digits).map Int.ofNat
  | digits => (unsigned digits).map Int.ofNat

/-- A number without its sign: the digits before and behind the point, not both missing, and the
power of ten that they are multiplied with. -/
def ofUnsigned? {format : Format} (negative : Bool) (chars : List Char) : Option (Binary format) :=
  let whole := chars.takeWhile Char.isDigit
  let (fraction, afterFraction) :=
    match chars.dropWhile Char.isDigit with
    | '.' :: rest => (rest.takeWhile Char.isDigit, rest.dropWhile Char.isDigit)
    | rest => ([], rest)
  let exponent : Option Int :=
    match afterFraction with
    | [] => some 0
    | 'e' :: rest => signedInteger? rest
    | 'E' :: rest => signedInteger? rest
    | _ => none
  if whole.isEmpty && fraction.isEmpty then none
  else exponent.map fun exponent => nearest negative (whole ++ fraction) (exponent - fraction.length)

/-- The number that a text stands for. -/
def ofText? {format : Format} (text : String) : Option (Binary format) :=
  let (negative, chars) : Bool × List Char :=
    match text.toList with
    | '-' :: rest => (true, rest)
    | '+' :: rest => (false, rest)
    | rest => (false, rest)
  match String.ofList (chars.map Char.toLower) with
  | "inf" | "infinity" => some (Binary.infinity negative)
  | "nan" => some Binary.notANumber
  | _ => ofUnsigned? negative chars

end Chunking.Number
