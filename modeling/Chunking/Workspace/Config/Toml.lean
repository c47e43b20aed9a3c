/-
The configuration file. It is a TOML document with the fields of the data form,
those of the engine in a table of their own. Lists of more than one item are
written with one item a line.
-/

import Chunking.Json.Printer
import Chunking.Toml.Reader
import Chunking.Workspace.Config.Json

namespace Chunking

/-! ### Reading -/

/-- One of several names: the name itself, or a table that gives it an empty value. -/
def Toml.tag? : Json → Option String
  | .string name => some name
  | .object [(name, .object [])] => some name
  | .object [(name, .array [])] => some name
  | _ => none

/-- The fields of a record, which is written as a table, or as an array that begins with the fields
in their order; what follows them there does not matter. -/
def Toml.record? (names : List String) : Json → Option (List (Option Json))
  | .array items => Json.record? names (.array (items.take names.length))
  | json => json.record? names

def Config.tomlFormat : Config.Format :=
  { tag? := Toml.tag?, record? := Toml.record? }

/-- The configuration in a document, if the document and all of its known fields are sound. -/
def Config.ofToml? (text : String) : Option Config :=
  (Toml.parse? text).bind fun document => Config.read? Config.tomlFormat document.toJson

/-! ### Writing -/

namespace Toml

/-- The text of a character inside a string. -/
def escapeChar (char : Char) : List Char :=
  if char.toNat == 0x7F then ['\\', 'u', '0', '0', '7', 'F'] else Json.escapeChar char

def quoted (text : String) : String :=
  String.ofList ('"' :: text.toList.flatMap escapeChar ++ ['"'])

/-- A list of texts, on one line if it has at most one item. -/
def listText : List String → String
  | [] => "[]"
  | [item] => "[" ++ quoted item ++ "]"
  | items => "[\n" ++ String.join (items.map fun item => "    " ++ quoted item ++ ",\n") ++ "]"

def floatText (value : Number.Single) : String :=
  if value.isNaN then "nan"
  else if value.isFinite then value.dataText Number.Binary.singleRange
  else if value.isNegative then "-inf"
  else "inf"

/-- A line that defines a key. -/
def line (key value : String) : String :=
  key ++ " = " ++ value ++ "\n"

end Toml

open Toml in
/-- The table of the engine's values. -/
def Overrides.toToml (overrides : Overrides) : String :=
  "[parser]\n"
    ++ line "use_case" (quoted overrides.useCase.name)
    ++ optional "escalation_fraction" floatText overrides.escalationFraction
    ++ optional "id_match_strategy" (fun matching => quoted matching.name) overrides.idMatching
    ++ optional "proximity_lines" toString overrides.proximityLines
    ++ optional "cache_capacity" toString overrides.cacheCapacity
    ++ optional "diff_timeout_ms" toString overrides.diffTimeout
where
  /-- A line that is written only if there is a value. -/
  optional {α : Type} (key : String) (write : α → String) (value : Option α) : String :=
    value.elim "" fun value => line key (write value)

open Toml in
/-- The document of a configuration. -/
def Config.toToml (config : Config) : String :=
  line "include_patterns" (listText config.includePatterns)
    ++ line "ignore_patterns" (listText config.ignorePatterns)
    ++ line "languages" (listText config.languages)
    ++ line "max_file_bytes" (toString config.maxFileBytes)
    ++ "\n" ++ config.parser.toToml

end Chunking
