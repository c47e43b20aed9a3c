/-
Writing JSON text, on one line without spaces, or with one item a line and two
spaces of indentation for each level. Empty arrays and objects stay on their
line in both. Numbers that are not finite have no JSON text and become null.
-/

import Chunking.Json.Basic
import Chunking.Number.Decimal

namespace Chunking.Json

open Number

/-- The text of a character inside a string. -/
def escapeChar (char : Char) : List Char :=
  if char == '"' then ['\\', '"']
  else if char == '\\' then ['\\', '\\']
  else if char == '\n' then ['\\', 'n']
  else if char == '\r' then ['\\', 'r']
  else if char == '\t' then ['\\', 't']
  else if char.toNat == 8 then ['\\', 'b']
  else if char.toNat == 12 then ['\\', 'f']
  else if char.toNat < 0x20 then
    ['\\', 'u', '0', '0', Nat.digitChar (char.toNat / 16), Nat.digitChar (char.toNat % 16)]
  else [char]

def quoted (text : String) : String :=
  String.ofList ('"' :: text.toList.flatMap escapeChar ++ ['"'])

def Numeral.text : Numeral → String
  | .integer value => toString value
  | .single value => if value.isFinite then value.dataText Binary.singleRange else "null"
  | .double value => if value.isFinite then value.dataText Binary.doubleRange else "null"

/-- Texts between brackets with commas between them. -/
def enclose (opening closing : String) (parts : List String) : String :=
  opening ++ String.intercalate "," parts ++ closing

mutual

/-- The text of a value on one line. -/
def compact : Json → String
  | .null => "null"
  | .bool value => if value then "true" else "false"
  | .number value => value.text
  | .string value => quoted value
  | .array items => enclose "[" "]" (compactItems items)
  | .object members => enclose "\x7b" "\x7d" (compactMembers members)

def compactItems : List Json → List String
  | [] => []
  | item :: rest => item.compact :: compactItems rest

def compactMembers : List (String × Json) → List String
  | [] => []
  | (name, value) :: rest => (quoted name ++ ":" ++ value.compact) :: compactMembers rest

end

/-- Indented lines between brackets, or only the brackets if there are none. -/
def encloseLines (indent opening closing : String) (parts : List String) : String :=
  if parts.isEmpty then opening ++ closing
  else
    opening ++ String.intercalate "," (parts.map fun part => "\n" ++ indent ++ "  " ++ part)
      ++ "\n" ++ indent ++ closing

mutual

/-- The text of a value over several lines, the first of them not indented. -/
def prettyAt (indent : String) : Json → String
  | .null => "null"
  | .bool value => if value then "true" else "false"
  | .number value => value.text
  | .string value => quoted value
  | .array items => encloseLines indent "[" "]" (prettyItems (indent ++ "  ") items)
  | .object members => encloseLines indent "\x7b" "\x7d" (prettyMembers (indent ++ "  ") members)

def prettyItems (indent : String) : List Json → List String
  | [] => []
  | item :: rest => item.prettyAt indent :: prettyItems indent rest

def prettyMembers (indent : String) : List (String × Json) → List String
  | [] => []
  | (name, value) :: rest =>
    (quoted name ++ ": " ++ value.prettyAt indent) :: prettyMembers indent rest

end

def pretty (json : Json) : String :=
  json.prettyAt ""

end Chunking.Json
