/-
The configuration of a workspace: which files are taken up, and how the engine is
set. Files are selected by patterns over their paths, by their languages and by
their sizes. The engine starts from a profile, over which single values may be
put; the result is checked before it is used.
-/

import Chunking.Settings
import Chunking.Workspace.Pattern

namespace Chunking

open Number

/-- The directory inside a workspace that belongs to the program. -/
def stateDirectory : String := ".code-chunker"

/-- A profile, and the values that replace those of the profile. -/
structure Overrides where
  useCase : UseCase := .interactiveEdit
  escalationFraction : Option Single := none
  idMatching : Option IdMatching := none
  proximityLines : Option Nat := none
  cacheCapacity : Option Nat := none
  diffTimeout : Option Nat := none
  deriving DecidableEq, Repr

namespace Overrides

instance : Inhabited Overrides := ⟨{}⟩

/-- The values of the profile, but for those that are replaced. -/
def apply (overrides : Overrides) : Settings :=
  let profile := Settings.forUseCase overrides.useCase
  { profile with
    escalationFraction := overrides.escalationFraction.getD profile.escalationFraction
    idMatching := overrides.idMatching.getD profile.idMatching
    proximityLines := overrides.proximityLines.getD profile.proximityLines
    cacheCapacity := overrides.cacheCapacity.or profile.cacheCapacity
    diffTimeout := overrides.diffTimeout.getD profile.diffTimeout }

/-- The settings, if all of them are in range. -/
def settings (overrides : Overrides) : Except Failure Settings :=
  match overrides.apply.validate with
  | .ok () => .ok overrides.apply
  | .error error => .error ⟨"Invalid [parser] configuration", some error⟩

end Overrides

structure Config where
  /-- Patterns of which a file has to satisfy one. -/
  includePatterns : List String := ["**/*"]
  /-- Patterns of which a file must satisfy none. -/
  ignorePatterns : List String :=
    ["target/**", "node_modules/**", "dist/**", "build/**", "**/__pycache__/**",
      stateDirectory ++ "/**", "*.min.js", "*.d.ts"]
  /-- The names of the languages of which files are taken up. -/
  languages : List String := Language.all.map Language.name
  /-- Files with more bytes are passed over. -/
  maxFileBytes : Nat := 1048576
  parser : Overrides := {}
  deriving DecidableEq, Repr

namespace Config

instance : Inhabited Config := ⟨{}⟩

def settings (config : Config) : Except Failure Settings :=
  config.parser.settings

/-! ### Selection of files -/

def ignores (config : Config) (path : String) : Bool :=
  config.ignorePatterns.any fun pattern => Pattern.selects pattern path

def includes (config : Config) (path : String) : Bool :=
  config.includePatterns.any fun pattern => Pattern.selects pattern path

/-- The configured languages in their order; names that stand for none are passed over. -/
def enabledLanguages (config : Config) : List Language :=
  Language.all.filter fun language =>
    config.languages.any fun name => Language.ofName? name == some language

/-- Whether two names differ at most in the case of their ASCII letters. -/
def sameName (left right : String) : Bool :=
  left.toList.map Char.toLower == right.toList.map Char.toLower

/-- The language of a file, if it is configured by its full name. -/
def languageFor? (config : Config) (path : String) : Option Language :=
  (Language.ofPath? path).filter fun language =>
    config.languages.any fun name => sameName name language.name

/-- The language in which a file is taken up, if its path is selected. -/
def selects? (config : Config) (path : String) : Option Language :=
  if config.ignores path || !config.includes path then none else config.languageFor? path

end Config

end Chunking
