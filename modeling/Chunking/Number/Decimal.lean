/-
Decimal texts of binary numbers. The shortest text is found by trying one
digit, two digits and so on: on each decimal grid only the two neighbours of
the number can read back as it, and the first grid on which one of them does
gives the digits. Every number of the format is read back from enough digits,
so the search ends. How the digits are then laid out is a matter of the place
where the text stands: data keeps a point and changes to an exponent for very
large and very small numbers, messages write every place.
-/

import Chunking.Number.Binary

namespace Chunking.Number

/-- `digits * 10 ^ exponent`. -/
structure Decimal where
  digits : Nat
  exponent : Int
  deriving DecidableEq, Repr

namespace Decimal

def digitCount (value : Nat) : Nat :=
  (Nat.toDigits 10 value).length

/-- Takes out factors of ten, at most `fuel` of them. -/
def stripZeros : Nat → Decimal → Decimal
  | 0, decimal => decimal
  | fuel + 1, decimal =>
    if decimal.digits ≠ 0 ∧ decimal.digits % 10 = 0 then
      stripZeros fuel ⟨decimal.digits / 10, decimal.exponent + 1⟩
    else decimal

/-- The same decimal with as few digits as possible. -/
def reduced (decimal : Decimal) : Decimal :=
  stripZeros (digitCount decimal.digits) decimal

/-- A fraction divided by a power of ten, again as a fraction. -/
def scaleDown (numerator denominator : Nat) (exponent : Int) : Nat × Nat :=
  match exponent with
  | .ofNat places => (numerator, denominator * Nat.pow 10 places)
  | .negSucc places => (numerator * Nat.pow 10 (places + 1), denominator)

/-- The greatest `exponent` with `10 ^ exponent ≤ numerator / denominator`, for positive fractions. -/
def decimalExponent (numerator denominator : Nat) : Int :=
  let guess : Int := (digitCount numerator : Int) - digitCount denominator
  let scaled := scaleDown numerator denominator guess
  if scaled.2 ≤ scaled.1 then guess else guess - 1

end Decimal

namespace Binary

variable {format : Format}

/-- Of the two grid points around a fraction, the nearest that reads back as `number`. -/
def nearestOnGrid? (number : Binary format) (numerator denominator : Nat) (exponent : Int) :
    Option Decimal :=
  let scaled := Decimal.scaleDown numerator denominator exponent
  let below : Decimal := ⟨scaled.1 / scaled.2, exponent⟩
  let above : Decimal := ⟨scaled.1 / scaled.2 + 1, exponent⟩
  let readsBack (decimal : Decimal) : Bool :=
    ofDecimal number.isNegative decimal.digits decimal.exponent = number
  let remainder := scaled.1 % scaled.2
  let aboveIsNearer := scaled.2 < 2 * remainder
    || (2 * remainder == scaled.2 && below.digits % 2 == 1)
  match readsBack below, readsBack above with
  | true, true => some (if aboveIsNearer then above else below)
  | true, false => some below
  | false, true => some above
  | false, false => none

/-- Tries grids with more and more digits. -/
def searchGrids (number : Binary format) (numerator denominator : Nat) : Nat → Int → Option Decimal
  | 0, _ => none
  | fuel + 1, exponent =>
    match nearestOnGrid? number numerator denominator exponent with
    | some decimal => some decimal
    | none => searchGrids number numerator denominator fuel (exponent - 1)

/-- The decimal with the fewest digits that reads back as the number, its sign apart. -/
def shortest (number : Binary format) : Decimal :=
  match number.meaning with
  | .finite _ mantissa exponent =>
    if mantissa = 0 then ⟨0, 0⟩
    else
      let fraction := Binary.scaleDown mantissa 1 (-exponent)
      let first := Decimal.decimalExponent fraction.1 fraction.2
      ((searchGrids number fraction.1 fraction.2 (format.precision + 1) first).getD ⟨0, 0⟩).reduced
  | _ => ⟨0, 0⟩

/-! ### Layouts -/

def digitChars (value : Nat) : List Char :=
  Nat.toDigits 10 value

/-- Writes every place of `digits * 10 ^ exponent`; `whole` is put behind a whole number. -/
def positional (whole : String) (decimal : Decimal) : String :=
  let digits := digitChars decimal.digits
  match decimal.exponent with
  | .ofNat places => String.ofList (digits ++ List.replicate places '0') ++ whole
  | .negSucc places =>
    let behind := places + 1
    let padded := List.replicate (behind + 1 - digits.length) '0' ++ digits
    String.ofList (padded.take (padded.length - behind)) ++ "."
      ++ String.ofList (padded.drop (padded.length - behind))

/-- Writes one digit before the point and the exponent with its sign behind the letter. -/
def scientific (decimal : Decimal) : String :=
  let digits := digitChars decimal.digits
  let exponent := decimal.exponent + (digits.length - 1 : Nat)
  let tail := digits.drop 1
  String.ofList (digits.take 1) ++ (if tail.isEmpty then "" else "." ++ String.ofList tail)
    ++ (if exponent < 0 then "e" else "e+") ++ toString exponent

/-- For which places of the decimal point, counted from the first digit, data is written out. -/
structure PositionalRange where
  above : Int
  upTo : Int

/-- Singles change to an exponent below `0.000001` and from fourteen places on. -/
def singleRange : PositionalRange := ⟨-6, 13⟩

/-- Doubles change to an exponent below `0.00001` and from seventeen places on. -/
def doubleRange : PositionalRange := ⟨-5, 16⟩

def signText (number : Binary format) : String :=
  if number.isNegative then "-" else ""

/-- The text of a finite number in data: a point is always written, or an exponent. -/
def dataText (range : PositionalRange) (number : Binary format) : String :=
  let decimal := number.shortest
  let point := (digitChars decimal.digits).length + decimal.exponent
  let body :=
    if decimal.digits = 0 then "0.0"
    else if range.above < point ∧ point ≤ range.upTo then positional ".0" decimal
    else scientific decimal
  number.signText ++ body

/-- The text of a number in messages: all places, no point behind a whole number. -/
def plainText (number : Binary format) : String :=
  match number.meaning with
  | .notANumber => "NaN"
  | .infinite negative => if negative then "-inf" else "inf"
  | .finite .. => number.signText ++ positional "" number.shortest

/-- The text of a number with a fixed count of places behind the point. -/
def fixedText (places : Nat) (number : Binary format) : String :=
  match number.meaning with
  | .finite _ mantissa exponent =>
    let fraction := Binary.scaleDown (mantissa * Nat.pow 10 places) 1 (-exponent)
    let rounded := roundHalfEven fraction.1 fraction.2
    number.signText ++ positional "" ⟨rounded, -(places : Int)⟩
  | _ => number.plainText

end Binary

end Chunking.Number
