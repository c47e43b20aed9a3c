/-
Reading TOML text. A document is read line by line: a line defines a key, opens
a table, or is empty but for a comment. Values may span lines where the grammar
allows it. As every step uses up characters, the length of the text bounds the
number of steps; how deeply values nest is limited besides.
-/

import Chunking.Number.Numeral
import Chunking.Toml.Basic
import Chunking.Toml.Moment
import Chunking.Word

namespace Chunking.Toml

open Number

/-! ### Characters -/

def isTab (char : Char) : Bool :=
  char == ' ' || char == '\t'

def skipTabs (chars : List Char) : List Char :=
  chars.dropWhile isTab

/-- Control characters, which stand nowhere but for the tab. -/
def isControl (char : Char) : Bool :=
  (char.toNat < 0x20 && char != '\t') || char.toNat == 0x7F

/-- What follows a line break. -/
def newline? : List Char → Option (List Char)
  | '\n' :: rest => some rest
  | '\r' :: '\n' :: rest => some rest
  | _ => none

/-- What is left of a line after a comment, if there is one. -/
def skipComment : List Char → List Char
  | '#' :: rest => rest.dropWhile (!isControl ·)
  | chars => chars

/-- The lines that follow, if nothing but a comment is left of this one. -/
def lineEnd? (chars : List Char) : Option (List Char) :=
  match skipComment (skipTabs chars) with
  | [] => some []
  | rest => newline? rest

/-- Passes over blanks, comments and line breaks. -/
def skipLines : (fuel : Nat) → List Char → List Char
  | 0, chars => chars
  | fuel + 1, chars =>
    let rest := skipComment (skipTabs chars)
    match newline? rest with
    | some after => skipLines fuel after
    | none => rest

/-! ### Strings -/

def hexDigit? (char : Char) : Option Nat :=
  if '0' ≤ char ∧ char ≤ '9' then some (char.toNat - '0'.toNat)
  else if 'a' ≤ char ∧ char ≤ 'f' then some (char.toNat - 'a'.toNat + 10)
  else if 'A' ≤ char ∧ char ≤ 'F' then some (char.toNat - 'A'.toNat + 10)
  else none

/-- The value of digits of a base. -/
def inBase? (base : Nat) (digits : List Char) : Option Nat :=
  if digits.isEmpty then none
  else digits.foldlM (fun value digit =>
    ((hexDigit? digit).filter (· < base)).map (value * base + ·)) 0

/-- The character with a code point, which must not be a surrogate. -/
def scalar? (digits : List Char) : Option Char :=
  (inBase? 16 digits).bind fun code =>
    if code.isValidChar then some (Char.ofNat code) else none

/-- The character of an escape, and what follows it. -/
def escape? : List Char → Option (Char × List Char)
  | 'b' :: rest => some (Char.ofNat 8, rest)
  | 't' :: rest => some ('\t', rest)
  | 'n' :: rest => some ('\n', rest)
  | 'f' :: rest => some (Char.ofNat 12, rest)
  | 'r' :: rest => some ('\r', rest)
  | '"' :: rest => some ('"', rest)
  | '\\' :: rest => some ('\\', rest)
  | 'u' :: rest =>
    if rest.length < 4 then none else (scalar? (rest.take 4)).map (·, rest.drop 4)
  | 'U' :: rest =>
    if rest.length < 8 then none else (scalar? (rest.take 8)).map (·, rest.drop 8)
  | _ => none

/-- Reads a string with escapes up to its closing quote. -/
def readBasic : (fuel : Nat) → List Char → Option (List Char × List Char)
  | 0, _ => none
  | fuel + 1, chars =>
    match chars with
    | '"' :: rest => some ([], rest)
    | '\\' :: rest => do
      let (char, rest) ← escape? rest
      let (text, after) ← readBasic fuel rest
      return (char :: text, after)
    | char :: rest =>
      if isControl char then none
      else (readBasic fuel rest).map fun (text, after) => (char :: text, after)
    | [] => none

/-- Reads a string without escapes up to its closing quote. -/
def readLiteral : List Char → Option (List Char × List Char)
  | [] => none
  | '\'' :: rest => some ([], rest)
  | char :: rest =>
    if isControl char then none
    else (readLiteral rest).map fun (text, after) => (char :: text, after)

/-- The quotes that end a string over several lines: three, before which up to two more belong to
the string. -/
def closingQuotes? (quote : Char) (chars : List Char) : Option (List Char × List Char) :=
  let count := (chars.takeWhile (· == quote)).length
  if count < 3 then none
  else
    let inside := min (count - 3) 2
    some (List.replicate inside quote, chars.drop (inside + 3))

/-- A backslash at the end of a line joins the line with the next text. -/
def continued? (fuel : Nat) (chars : List Char) : Option (List Char) :=
  (newline? (skipTabs chars)).map fun rest =>
    (skipBlankLines fuel rest)
where
  /-- Passes over blanks and line breaks. -/
  skipBlankLines : Nat → List Char → List Char
    | 0, chars => chars
    | fuel + 1, chars =>
      match newline? (skipTabs chars) with
      | some rest => skipBlankLines fuel rest
      | none => skipTabs chars

/-- Reads a string over several lines up to its closing quotes. -/
def readLong (quote : Char) : (fuel : Nat) → List Char → Option (List Char × List Char)
  | 0, _ => none
  | fuel + 1, chars =>
    match closingQuotes? quote chars with
    | some found => some found
    | none =>
      match newline? chars with
      | some rest => (readLong quote fuel rest).map fun (text, after) => ('\n' :: text, after)
      | none =>
        match chars with
        | [] => none
        | char :: rest =>
          if isControl char then none
          else if char == '\\' && quote == '"' then
            match continued? fuel rest with
            | some rest => readLong quote fuel rest
            | none => do
              let (char, rest) ← escape? rest
              let (text, after) ← readLong quote fuel rest
              return (char :: text, after)
          else (readLong quote fuel rest).map fun (text, after) => (char :: text, after)

/-- A line break directly behind the opening quotes is not part of the string. -/
def dropFirstBreak (chars : List Char) : List Char :=
  (newline? chars).getD chars

/-- Reads a string of any form. -/
def readString? (fuel : Nat) : List Char → Option (String × List Char)
  | '"' :: '"' :: '"' :: rest => text (readLong '"' fuel (dropFirstBreak rest))
  | '\'' :: '\'' :: '\'' :: rest => text (readLong '\'' fuel (dropFirstBreak rest))
  | '"' :: rest => text (readBasic fuel rest)
  | '\'' :: rest => text (readLiteral rest)
  | _ => none
where
  /-- The characters put together. -/
  text (found : Option (List Char × List Char)) : Option (String × List Char) :=
    found.map fun (chars, after) => (String.ofList chars, after)

/-! ### Keys -/

/-- How deeply arrays and inline tables may nest, and how many parts a key may have. -/
def nestingLimit : Nat := 79

def isBareKeyChar (char : Char) : Bool :=
  char.isAlphanum || char == '_' || char == '-'

/-- Reads one part of a key: bare, or a string on one line. -/
def readSimpleKey (fuel : Nat) : List Char → Option (String × List Char)
  | '"' :: rest => (readBasic fuel rest).map fun (text, after) => (String.ofList text, after)
  | '\'' :: rest => (readLiteral rest).map fun (text, after) => (String.ofList text, after)
  | chars =>
    let key := chars.takeWhile isBareKeyChar
    if key.isEmpty then none else some (String.ofList key, chars.dropWhile isBareKeyChar)

/-- Reads the parts of a key with dots between them. -/
def readKeyParts : (fuel : Nat) → List Char → Option (List String × List Char)
  | 0, _ => none
  | fuel + 1, chars => do
    let (part, chars) ← readSimpleKey fuel (skipTabs chars)
    match skipTabs chars with
    | '.' :: rest =>
      let (parts, after) ← readKeyParts fuel rest
      return (part :: parts, after)
    | rest => return ([part], rest)

/-- Reads a key, which must not have too many parts. -/
def readKey (fuel : Nat) (chars : List Char) : Option (List String × List Char) :=
  (readKeyParts fuel chars).filter fun (parts, _) => parts.length ≤ nestingLimit

/-! ### Numbers -/

/-- The digits of a number, in which underscores stand only between two digits. -/
def plainDigits? (isDigit : Char → Bool) : List Char → Option (List Char)
  | [] => none
  | [digit] => if isDigit digit then some [digit] else none
  | digit :: '_' :: rest =>
    if isDigit digit then (plainDigits? isDigit rest).map (digit :: ·) else none
  | digit :: next :: rest =>
    if isDigit digit then (plainDigits? isDigit (next :: rest)).map (digit :: ·) else none

/-- Decimal digits of a whole number, which do not begin with a needless zero. -/
def wholeDigits? (chars : List Char) : Option (List Char) :=
  (plainDigits? Char.isDigit chars).filter fun digits =>
    digits.length == 1 || digits.head? != some '0'

/-- Splits a sign off a number. -/
def splitSign : List Char → Option Bool × List Char
  | '-' :: rest => (some true, rest)
  | '+' :: rest => (some false, rest)
  | chars => (none, chars)

/-- A number of 64 bits with a sign. -/
def bounded? (value : Int) : Option Toml :=
  if -(Word.signedLimit : Int) ≤ value ∧ value < Word.signedLimit then some (.integer value) else none

def isHexDigit (char : Char) : Bool :=
  (hexDigit? char).isSome

/-- The digits of a number in another base than ten. -/
def based? (base : Nat) (chars : List Char) : Option Toml :=
  ((plainDigits? isHexDigit chars).bind (inBase? base)).bind fun value => bounded? value

/-- Splits characters in front of the first one that satisfies `marks`. -/
def splitBefore (marks : Char → Bool) (chars : List Char) : List Char × List Char :=
  (chars.takeWhile (!marks ·), chars.dropWhile (!marks ·))

/-- The power of ten behind the mark of an exponent. -/
def exponent? : List Char → Option Int
  | [] => some 0
  | _ :: rest =>
    let (sign, digits) := splitSign rest
    (plainDigits? Char.isDigit digits).map fun digits =>
      if sign = some true then -(digitsValue digits : Int) else digitsValue digits

/-- A number with a point or an exponent, which must not be too large. -/
def float? (negative : Bool) (chars : List Char) : Option Toml :=
  let (mantissa, exponent) := splitBefore (fun char => char == 'e' || char == 'E') chars
  let (whole, behind) := splitBefore (· == '.') mantissa
  let fraction : Option (List Char) :=
    match behind with
    | [] => some []
    | _ :: digits => plainDigits? Char.isDigit digits
  do
    let whole ← wholeDigits? whole
    let fraction ← fraction
    let exponent ← exponent? exponent
    let number : Double := nearest negative (whole ++ fraction) (exponent - fraction.length)
    if number = Binary.infinity false then none else return .float number

/-- The number that a run of characters stands for. -/
def number? (chars : List Char) : Option Toml :=
  let (sign, digits) := splitSign chars
  let negative := sign == some true
  match sign, digits with
  | none, '0' :: 'x' :: rest => based? 16 rest
  | none, '0' :: 'o' :: rest => based? 8 rest
  | none, '0' :: 'b' :: rest => based? 2 rest
  | _, ['i', 'n', 'f'] => some (.float (Binary.infinity negative))
  | _, ['n', 'a', 'n'] => some (.float Binary.notANumber)
  | _, _ =>
    match wholeDigits? digits with
    | some digits => bounded? (if negative then -(digitsValue digits : Int) else digitsValue digits)
    | none =>
      if digits.any fun char => char == '.' || char == 'e' || char == 'E' then
        float? negative digits
      else none

/-- Characters of which numbers are made. -/
def isNumberChar (char : Char) : Bool :=
  char.isAlphanum || char == '_' || char == '+' || char == '-' || char == '.'

/-- Reads a number, or one of the words for true and false. -/
def readWord (chars : List Char) : Option (Toml × List Char) :=
  let word := chars.takeWhile isNumberChar
  let value : Option Toml :=
    match String.ofList word with
    | "true" => some (.boolean true)
    | "false" => some (.boolean false)
    | _ => number? word
  value.map (·, chars.dropWhile isNumberChar)

/-! ### Values -/

mutual

/-- Reads a value that begins with the first character. -/
def readValue : (fuel depth : Nat) → List Char → Option (Toml × List Char)
  | 0, _, _ => none
  | fuel + 1, depth, chars =>
    match chars with
    | '[' :: rest =>
      if depth = 0 then none
      else (readItems fuel (depth - 1) rest).map fun (items, after) => (.array items, after)
    | '\x7b' :: rest =>
      if depth = 0 then none
      else
        match skipTabs rest with
        | '\x7d' :: after => some (.table .inline [], after)
        | inside =>
          (readFields fuel (depth - 1) [] inside).map fun (entries, after) =>
            (.table .inline entries, after)
    | '"' :: _ | '\'' :: _ =>
      (readString? fuel chars).map fun (text, after) => (.string text, after)
    | _ =>
      match Moment.read? chars with
      | some (text, after) => some (.moment (String.ofList text), after)
      | none => readWord chars

/-- Reads the items of an array, with line breaks and comments among them, up to the closing
bracket. -/
def readItems : (fuel depth : Nat) → List Char → Option (List Toml × List Char)
  | 0, _, _ => none
  | fuel + 1, depth, chars =>
    match skipLines fuel chars with
    | ']' :: after => some ([], after)
    | inside => do
      let (item, chars) ← readValue fuel depth inside
      match skipLines fuel chars with
      | ']' :: after => return ([item], after)
      | ',' :: rest =>
        let (items, after) ← readItems fuel depth rest
        return (item :: items, after)
      | _ => none

/-- Reads the entries of an inline table behind those already read, up to the closing brace. -/
def readFields : (fuel depth : Nat) → Entries → List Char → Option (Entries × List Char)
  | 0, _, _, _ => none
  | fuel + 1, depth, entries, chars => do
    let (key, chars) ← readKey fuel chars
    match skipTabs chars with
    | '=' :: rest =>
      let (value, chars) ← readValue fuel depth (skipTabs rest)
      let entries ← define (key.getLastD "") value key.dropLast entries
      match skipTabs chars with
      | '\x7d' :: after => return (entries, after)
      | ',' :: rest => readFields fuel depth entries rest
      | _ => none
    | _ => none

end

/-! ### Documents -/

/-- Reads a header up to its closing brackets. -/
def readHeader (fuel : Nat) (closing chars : List Char) : Option (List String × List Char) := do
  let (path, rest) ← readKey fuel chars
  if closing.isPrefixOf rest then return (path, rest.drop closing.length) else none

/-- Reads the lines of a document, of which `entries` is known already. Keys are defined in the
table at `path`. -/
def readLines : (fuel : Nat) → (path : List String) → Entries → List Char → Option Entries
  | 0, _, _, _ => none
  | fuel + 1, path, entries, chars =>
    match skipLines fuel chars with
    | [] => some entries
    | '[' :: '[' :: rest => do
      let (path, rest) ← readHeader fuel [']', ']'] rest
      let entries ← within (openItem (path.getLastD "")) path.dropLast entries
      readLines fuel path entries (← lineEnd? rest)
    | '[' :: rest => do
      let (path, rest) ← readHeader fuel [']'] rest
      let entries ← within (openTable (path.getLastD "")) path.dropLast entries
      readLines fuel path entries (← lineEnd? rest)
    | line => do
      let (key, rest) ← readKey fuel line
      match rest with
      | '=' :: rest =>
        let (value, rest) ← readValue fuel nestingLimit (skipTabs rest)
        let entries ← within (define (key.getLastD "") value key.dropLast) path entries
        readLines fuel path entries (← lineEnd? rest)
      | _ => none

/-- The table that a document defines. A byte order mark in front is passed over. -/
def parse? (text : String) : Option Toml :=
  let chars := match text.toList with
    | '﻿' :: rest => rest
    | chars => chars
  (readLines (2 * chars.length + 2) [] [] chars).map (.table .header ·)

end Chunking.Toml
