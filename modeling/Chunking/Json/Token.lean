/-
The tokens of JSON text that take more than one look: strings and numbers. Both
can be read, or be passed over. What is passed over has to be well written, but
its value does not matter: it may name half of a surrogate pair, or a number that
is too large.

A number without point and exponent is whole as long as sixty-four bits hold
it. All others become doubles, and so does minus zero. A number too large for
a double is refused when it is read.
-/

import Chunking.Json.Basic
import Chunking.Number.Numeral
import Chunking.Number.Scaled

namespace Chunking.Json

open Number

def isSpace (char : Char) : Bool :=
  char == ' ' || char == '\n' || char == '\t' || char == '\r'

def skipSpace (chars : List Char) : List Char :=
  chars.dropWhile isSpace

/-! ### Strings -/

def hexValue? (char : Char) : Option Nat :=
  if '0' ≤ char ∧ char ≤ '9' then some (char.toNat - '0'.toNat)
  else if 'a' ≤ char ∧ char ≤ 'f' then some (char.toNat - 'a'.toNat + 10)
  else if 'A' ≤ char ∧ char ≤ 'F' then some (char.toNat - 'A'.toNat + 10)
  else none

/-- The number written by hexadecimal digits. -/
def hexNumber? (digits : List Char) : Option Nat :=
  digits.foldlM (fun value digit => (hexValue? digit).map (value * 16 + ·)) 0

def isHighSurrogate (code : Nat) : Bool := 0xD800 ≤ code && code < 0xDC00

def isLowSurrogate (code : Nat) : Bool := 0xDC00 ≤ code && code < 0xE000

/-- The character that a letter after a backslash stands for. -/
def escapedChar? : Char → Option Char
  | '"' => some '"'
  | '\\' => some '\\'
  | '/' => some '/'
  | 'b' => some (Char.ofNat 8)
  | 'f' => some (Char.ofNat 12)
  | 'n' => some '\n'
  | 'r' => some '\r'
  | 't' => some '\t'
  | _ => none

/-- Reads up to the closing quote. Two escapes that form a surrogate pair are one character, and
half of a pair is refused. -/
def readString : List Char → Option (List Char × List Char)
  | '"' :: rest => some ([], rest)
  | '\\' :: 'u' :: a :: b :: c :: d :: rest => do
    let code ← hexNumber? [a, b, c, d]
    if isHighSurrogate code then
      match rest with
      | '\\' :: 'u' :: e :: f :: g :: h :: rest =>
        let low ← hexNumber? [e, f, g, h]
        if isLowSurrogate low then
          let (chars, after) ← readString rest
          some (Char.ofNat (0x10000 + (code - 0xD800) * 0x400 + (low - 0xDC00)) :: chars, after)
        else none
      | _ => none
    else if isLowSurrogate code then none
    else
      let (chars, after) ← readString rest
      some (Char.ofNat code :: chars, after)
  | '\\' :: letter :: rest => do
    let char ← escapedChar? letter
    let (chars, after) ← readString rest
    some (char :: chars, after)
  | char :: rest =>
    if char.toNat < 0x20 || char == '\\' then none
    else do
      let (chars, after) ← readString rest
      some (char :: chars, after)
  | [] => none
termination_by structural chars => chars

/-- Passes over everything up to the closing quote. -/
def passString : List Char → Option (List Char)
  | '"' :: rest => some rest
  | '\\' :: 'u' :: a :: b :: c :: d :: rest =>
    if (hexNumber? [a, b, c, d]).isSome then passString rest else none
  | '\\' :: letter :: rest => if (escapedChar? letter).isSome then passString rest else none
  | char :: rest => if char.toNat < 0x20 || char == '\\' then none else passString rest
  | [] => none
termination_by structural chars => chars

/-! ### Numbers -/

/-- A number as it is written. -/
structure NumberText where
  negative : Bool
  /-- The digits in front of the point. -/
  whole : List Char
  /-- The digits behind the point, if there is one. -/
  fraction : Option (List Char)
  exponent : Option Int
  deriving DecidableEq, Repr

/-- The digits in front and what follows them. -/
def spanDigits (chars : List Char) : List Char × List Char :=
  chars.span Char.isDigit

/-- The whole part: a single zero, or digits that do not begin with zero. -/
def readWhole (chars : List Char) : Option (List Char × List Char) :=
  match spanDigits chars with
  | ([], _) => none
  | ('0' :: _ :: _, _) => none
  | found => some found

/-- The digits behind a point, if there is a point. -/
def readFraction : List Char → Option (Option (List Char) × List Char)
  | '.' :: rest =>
    match spanDigits rest with
    | ([], _) => none
    | (digits, after) => some (some digits, after)
  | chars => some (none, chars)

/-- The exponent, if there is one. -/
def readExponent : List Char → Option (Option Int × List Char)
  | mark :: rest =>
    if mark == 'e' || mark == 'E' then
      let (negative, rest) := match rest with
        | '-' :: rest => (true, rest)
        | '+' :: rest => (false, rest)
        | rest => (false, rest)
      match spanDigits rest with
      | ([], _) => none
      | (digits, after) =>
        let value : Int := digitsValue digits
        some (some (if negative then -value else value), after)
    else some (none, mark :: rest)
  | [] => some (none, [])

def scanNumber (chars : List Char) : Option (NumberText × List Char) := do
  let (negative, chars) := match chars with
    | '-' :: rest => (true, rest)
    | chars => (false, chars)
  let (whole, chars) ← readWhole chars
  let (fraction, chars) ← readFraction chars
  let (exponent, chars) ← readExponent chars
  some ({ negative, whole, fraction, exponent }, chars)

namespace NumberText

/-- The number as a double, unless it is too large. -/
def double? (text : NumberText) : Option Double :=
  let digits := (Gathered.whole 0 text.whole).fraction (text.fraction.getD [])
  let value := { digits with exponent := digits.exponent + text.exponent.getD 0 }.toDouble?
  if text.negative then value.map Binary.neg else value

/-- The number as a whole number, if it is written as one and sixty-four bits hold it. -/
def integer? (text : NumberText) : Option Int :=
  let value := digitsValue text.whole
  if text.fraction.isSome || text.exponent.isSome then none
  else if text.negative then
    if value ≠ 0 ∧ value ≤ Word.signedLimit then some (-value) else none
  else if value < Word.limit then some value
  else none

def numeral? (text : NumberText) : Option Numeral :=
  match text.integer? with
  | some value => some (.integer value)
  | none => text.double?.map .double

end NumberText

def readNumber (chars : List Char) : Option (Numeral × List Char) := do
  let (text, after) ← scanNumber chars
  some (← text.numeral?, after)

end Chunking.Json
