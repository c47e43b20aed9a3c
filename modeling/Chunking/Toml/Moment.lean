/-
Dates and times in TOML: a date, a time, or both with a letter or a space between
them and perhaps an offset from universal time behind them. A date has to be in
the calendar. Only where such a text ends matters here, so the text itself is
what is kept.
-/

import Chunking.Number.Numeral

namespace Chunking.Toml.Moment

open Number

/-- A part of a text, and what follows it. -/
abbrev Part := Option (List Char × List Char)

/-- Reads exactly `count` digits whose value is in range. -/
def digits (count least greatest : Nat) (chars : List Char) : Part :=
  let found := chars.take count
  if found.length = count && found.all Char.isDigit && least ≤ digitsValue found
      && digitsValue found ≤ greatest then
    some (found, chars.drop count)
  else none

/-- Reads one of several characters. -/
def oneOf (choices : List Char) : List Char → Part
  | [] => none
  | char :: rest => if choices.contains char then some ([char], rest) else none

/-- Reads parts one after another. -/
def inTurn : List (List Char → Part) → List Char → Part
  | [], chars => some ([], chars)
  | reader :: readers, chars => do
    let (found, rest) ← reader chars
    let (more, rest) ← inTurn readers rest
    return (found ++ more, rest)

/-- Reads a part if it is there. -/
def perhaps (reader : List Char → Part) (chars : List Char) : Part :=
  (reader chars).or (some ([], chars))

/-! ### Dates -/

def isLeapYear (year : Nat) : Bool :=
  year % 4 == 0 && (year % 100 != 0 || year % 400 == 0)

def daysIn (year month : Nat) : Nat :=
  if month = 2 then if isLeapYear year then 29 else 28
  else if [4, 6, 9, 11].contains month then 30
  else 31

def date (chars : List Char) : Part := do
  let (year, rest) ← digits 4 0 9999 chars
  let (_, rest) ← oneOf ['-'] rest
  let (month, rest) ← digits 2 1 12 rest
  let (_, rest) ← oneOf ['-'] rest
  let (day, rest) ← digits 2 1 (daysIn (digitsValue year) (digitsValue month)) rest
  return (year ++ '-' :: month ++ '-' :: day, rest)

/-! ### Times -/

/-- The part of a second behind the point. -/
def fraction : List Char → Part
  | '.' :: rest =>
    let found := rest.takeWhile Char.isDigit
    if found.isEmpty then none else some ('.' :: found, rest.dropWhile Char.isDigit)
  | _ => none

/-- A time of the day; a minute may have a leap second. -/
def time : List Char → Part :=
  inTurn [digits 2 0 23, oneOf [':'], digits 2 0 59, oneOf [':'], digits 2 0 60, perhaps fraction]

def offset (chars : List Char) : Part :=
  (oneOf ['Z', 'z'] chars).or
    (inTurn [oneOf ['+', '-'], digits 2 0 23, oneOf [':'], digits 2 0 59] chars)

/-- Reads a date, a time, or both. -/
def read? (chars : List Char) : Part :=
  (inTurn [date, perhaps (inTurn [oneOf ['T', 't', ' '], time, perhaps offset])] chars).or
    (time chars)

end Chunking.Toml.Moment
