/-
A host that follows a script: it keeps a record of the calls of processors, lets
chosen calls fail, and asks to stop from the start or after a chosen call.
-/

import Chunking.Engine.Host

namespace Chunking

/-- What is to happen, and what has happened so far. -/
structure Script where
  /-- Calls, counted from one, that fail, and how. -/
  failures : List (Nat × (Language → Error)) := []
  /-- The call after which to ask to stop. -/
  cancelAfter : Option Nat := none
  cancelled : Bool := false
  /-- The calls so far with the sizes of their texts in bytes, the latest first. -/
  calls : List (Coverage × Nat) := []

namespace Script

/-- Follows the script for one call. -/
def call (processor : Processor) (text : String) (coverage : Coverage) :
    StateM Script (Except Error Extraction) := do
  let script ← get
  let calls := (coverage, text.utf8ByteSize) :: script.calls
  match script.failures.lookup calls.length with
  | some failure =>
    set { script with calls }
    return .error (failure processor.language)
  | none =>
    set { script with
      calls
      cancelled := script.cancelled || script.cancelAfter == some calls.length }
    return processor.process text coverage

/-- The host that follows the script in its state. -/
def host : Host Script :=
  { process := call
    isCancelled := return (← get).cancelled }

end Script

end Chunking
