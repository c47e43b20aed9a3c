/-
The surroundings of the engine, which it does not decide about: how processors
answer, and whether someone asks to stop. Both may depend on everything that
happened before, so they run in a state of their own. A host without any state
runs processors as they are and never asks to stop.
-/

import Chunking.Processor

namespace Chunking

/-- How the engine reaches the outside. -/
structure Host (σ : Type) where
  /-- Runs a processor on a text. -/
  process : Processor → String → Coverage → StateM σ (Except Error Extraction)
  /-- Whether someone asks to stop. -/
  isCancelled : StateM σ Bool

/-- Work of the engine, which may fail and happens in the state of a host. -/
abbrev Work (σ : Type) := ExceptT Error (StateM σ)

namespace Host

/-- Gives up if someone asks to stop. -/
def check {σ : Type} (host : Host σ) (file : String) : Work σ Unit := do
  if ← host.isCancelled then throw (.cancelled file)

/-- Runs a processor on a text, with its failure as a result. -/
def attempt {σ : Type} (host : Host σ) (processor : Processor) (text : String)
    (coverage : Coverage) : Work σ (Except Error Extraction) :=
  ExceptT.lift (host.process processor text coverage)

/-- Processors as they are, and nobody who asks to stop. -/
def plain : Host Unit :=
  { process := fun processor text coverage => pure (processor.process text coverage)
    isCancelled := pure false }

end Host

end Chunking
