/-
Sets of code points written as runs. The properties that classify characters
are too large to list one by one, and most of them come in long stretches, or
in stretches that take every second code point because capital and small
letters alternate. A run covers both shapes, and a set is a list of runs.
-/

namespace Chunking.Text

/-- The code points from `first` to `last` that lie a multiple of `step` after `first`. -/
structure Run where
  first : Nat
  last : Nat
  step : Nat
  deriving DecidableEq, Repr

/-- Whether a code point belongs to the run. -/
def Run.covers (run : Run) (code : Nat) : Bool :=
  run.first ≤ code && code ≤ run.last && (code - run.first) % run.step == 0

/-- Whether a character belongs to one of the runs. -/
def inRuns (runs : List Run) (char : Char) : Bool :=
  runs.any (·.covers char.toNat)

end Chunking.Text
