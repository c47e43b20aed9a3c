/-
Detection of the changes between two texts. Texts with a NUL character are
taken for binary data, and texts of which only one uses carriage returns before
line feeds would differ in every line, so for both no comparison is offered.
-/

import Chunking.Diff.Compaction
import Chunking.Diff.Script
import Chunking.Error

namespace Chunking.Diff

/-- The changes that lead from one token list to another, one between two kept stretches. -/
def gathered (deadline : Deadline) (old new : List String) : List LineChange :=
  changesFrom {} ((Sides.mk old new).compact (compare deadline old new))

/-- The changed line ranges between two texts, in order. -/
def detect (deadline : Deadline) (old new : String) : Except Error (List LineChange) :=
  if old = new then .ok []
  else if Text.containsChar '\x00' old || Text.containsChar '\x00' new then
    .error (.diffInconclusive "text contains NUL bytes")
  else if Text.contains "\r\n" old != Text.contains "\r\n" new then
    .error (.diffInconclusive "line endings changed")
  else .ok (joinTouching (gathered deadline (tokens old) (tokens new)))

end Chunking.Diff
