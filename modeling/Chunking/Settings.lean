/-
Settings of the engine. Two profiles give defaults, for editing with small
changes and for taking in whole files; single values can be overridden. The
values are checked in a fixed order, so of several faults the first is told.
-/

import Chunking.Error
import Chunking.Number.Decimal

namespace Chunking

open Number

inductive UseCase where
  /-- Small edits, reparsed where they touch. -/
  | interactiveEdit
  /-- Whole files, always parsed in full. -/
  | batchIngest
  deriving DecidableEq, Repr, Inhabited

namespace UseCase

def all : List UseCase := [.interactiveEdit, .batchIngest]

def name : UseCase → String
  | .interactiveEdit => "interactive-edit"
  | .batchIngest => "batch-ingest"

def named? (text : String) : Option UseCase :=
  all.find? (·.name == text)

end UseCase

/-- How chunks that were parsed again are given the ids of earlier ones of their kind and name. -/
inductive IdMatching where
  /-- In the order in which they appear. -/
  | strictNameType
  /-- By the nearest position, and ids dropped nearby may come back. -/
  | nameTypeProximity
  deriving DecidableEq, Repr, Inhabited

namespace IdMatching

def all : List IdMatching := [.strictNameType, .nameTypeProximity]

def name : IdMatching → String
  | .strictNameType => "strict-name-type"
  | .nameTypeProximity => "name-type-proximity"

/-- The name under which the settings are shown to people. -/
def title : IdMatching → String
  | .strictNameType => "StrictNameType"
  | .nameTypeProximity => "NameTypeProximity"

def named? (text : String) : Option IdMatching :=
  all.find? (·.name == text)

end IdMatching

structure Settings where
  useCase : UseCase
  /-- The share of invalidated chunks above which the whole file is parsed; at zero it always is. -/
  escalationFraction : Single
  idMatching : IdMatching
  /-- Within how many lines a dropped id can come back. -/
  proximityLines : Nat
  /-- How many files are kept; all of them if there is no number. -/
  cacheCapacity : Option Nat
  /-- For how many milliseconds two texts are compared closely. -/
  diffTimeout : Nat
  deriving DecidableEq, Repr

namespace Settings

def forUseCase : UseCase → Settings
  | .interactiveEdit =>
    { useCase := .interactiveEdit
      escalationFraction := Binary.ofDecimal false 5 (-1)
      idMatching := .nameTypeProximity
      proximityLines := 3
      cacheCapacity := none
      diffTimeout := 500 }
  | .batchIngest =>
    { useCase := .batchIngest
      escalationFraction := Binary.ofNat 0
      idMatching := .strictNameType
      proximityLines := 0
      cacheCapacity := none
      diffTimeout := 2000 }

instance : Inhabited Settings := ⟨forUseCase .interactiveEdit⟩

/-- Checks that all values are in range. -/
def validate (settings : Settings) : Except Error Unit :=
  let fraction := settings.escalationFraction
  if !((Binary.ofNat 0).le fraction && fraction.le (Binary.ofNat 1)) then
    .error (.invalidConfig
      ("escalation_fraction must be within [0, 1], got " ++ fraction.plainText))
  else if settings.cacheCapacity = some 0 then
    .error (.invalidConfig "cache_capacity must be at least 1")
  else if settings.diffTimeout = 0 then
    .error (.invalidConfig "diff_timeout_ms must be positive")
  else .ok ()

/-- Whether no file is ever reparsed in parts. -/
def alwaysFull (settings : Settings) : Bool :=
  settings.escalationFraction.le (Binary.ofNat 0)

end Settings

end Chunking
