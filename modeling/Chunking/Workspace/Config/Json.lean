/-
The data form of a configuration. Every field may be missing and then has its
default. Values put over a profile may also be null, which means that they are
not put over it. Formats differ in how they write names out of a fixed set, and
in how they write records.
-/

import Chunking.Version.Json
import Chunking.Workspace.Config

namespace Chunking

open Json

/-! ### Writing -/

/-- The fields of the values that replace others; unset ones are left out. -/
def Overrides.toJson (overrides : Overrides) : Json :=
  .object ([("use_case", .string overrides.useCase.name)]
    ++ optional "escalation_fraction" Json.single overrides.escalationFraction
    ++ optional "id_match_strategy" (fun matching => .string matching.name) overrides.idMatching
    ++ optional "proximity_lines" .nat overrides.proximityLines
    ++ optional "cache_capacity" .nat overrides.cacheCapacity
    ++ optional "diff_timeout_ms" .nat overrides.diffTimeout)
where
  /-- A field that is written only if it has a value. -/
  optional {α : Type} (name : String) (write : α → Json) (value : Option α) : List (String × Json) :=
    (value.map fun value => (name, write value)).toList

def Config.toJson (config : Config) : Json :=
  .object [("include_patterns", .strings config.includePatterns),
    ("ignore_patterns", .strings config.ignorePatterns), ("languages", .strings config.languages),
    ("max_file_bytes", .nat config.maxFileBytes), ("parser", config.parser.toJson)]

/-! ### Reading -/

/-- What formats do in different ways. -/
structure Config.Format where
  /-- Reads a name out of a fixed set of names. -/
  tag? : Json → Option String
  /-- Reads the named fields of a record. -/
  record? : List String → Json → Option (List (Option Json))

/-- Reads the values that replace others. -/
def Overrides.read? (format : Config.Format) (json : Json) : Option Overrides := do
  let [useCase, escalationFraction, idMatching, proximityLines, cacheCapacity, diffTimeout] ←
    format.record? ["use_case", "escalation_fraction", "id_match_strategy", "proximity_lines",
      "cache_capacity", "diff_timeout_ms"] json | none
  let named {α : Type} (find? : String → Option α) (value : Json) : Option α :=
    (format.tag? value).bind find?
  return {
    useCase := ← withDefault .interactiveEdit (named UseCase.named?) useCase
    escalationFraction := ← nullable asSingle? escalationFraction
    idMatching := ← nullable (named IdMatching.named?) idMatching
    proximityLines := ← nullable asCount? proximityLines
    cacheCapacity := ← nullable asCount? cacheCapacity
    diffTimeout := ← nullable asCount? diffTimeout }

def Config.read? (format : Config.Format) (json : Json) : Option Config := do
  let [includePatterns, ignorePatterns, languages, maxFileBytes, parser] ←
    format.record? ["include_patterns", "ignore_patterns", "languages", "max_file_bytes", "parser"]
      json | none
  let default : Config := {}
  return {
    includePatterns := ← withDefault default.includePatterns (asListOf? asString?) includePatterns
    ignorePatterns := ← withDefault default.ignorePatterns (asListOf? asString?) ignorePatterns
    languages := ← withDefault default.languages (asListOf? asString?) languages
    maxFileBytes := ← withDefault default.maxFileBytes asCount? maxFileBytes
    parser := ← withDefault default.parser (Overrides.read? format) parser }

def Config.jsonFormat : Config.Format :=
  { tag? := asTag?, record? := Json.record? }

def Overrides.ofJson? (json : Json) : Option Overrides :=
  Overrides.read? Config.jsonFormat json

def Config.ofJson? (json : Json) : Option Config :=
  Config.read? Config.jsonFormat json

end Chunking
