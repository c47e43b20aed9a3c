/-
Windows: the stretches of a new text that are parsed again. They are kept apart
from each other and from the chunks that survive. A chunk that a window overlaps
is swallowed by it, which may make the window overlap further chunks, so this is
repeated until nothing is swallowed any more; every round takes at least one of
the chunks, which bounds the number of rounds.
-/

import Chunking.Chunk
import Chunking.Scope.Cuts

namespace Chunking

namespace LineRange

/-- The smallest range around two ranges. -/
def hull (left right : LineRange) : LineRange :=
  ⟨min left.start right.start, max left.stop right.stop⟩

/-- The order by start, and then by stop. -/
def inOrder (left right : LineRange) : Bool :=
  left.start < right.start || (left.start == right.start && left.stop ≤ right.stop)

/-- Joins sorted ranges that overlap or touch; `current` comes before the others. -/
def joinFrom (current : LineRange) : List LineRange → List LineRange
  | [] => [current]
  | range :: rest =>
    if range.start ≤ current.stop then joinFrom ⟨current.start, max current.stop range.stop⟩ rest
    else current :: joinFrom range rest

/-- Sorts ranges, joins those that overlap or touch, and drops empty ones. -/
def coalesce (ranges : List LineRange) : List LineRange :=
  match (ranges.filter (!·.isEmpty)).mergeSort inOrder with
  | [] => []
  | range :: rest => joinFrom range rest

end LineRange

namespace Windows

/-- The windows with the first one that overlaps a range grown over it. -/
def swallow? (range : LineRange) : List LineRange → Option (List LineRange)
  | [] => none
  | window :: rest =>
    if window.overlaps range then some (window.hull range :: rest)
    else (swallow? range rest).map (window :: ·)

/-- What windows do to chunks that come one after another. -/
structure Sweep where
  windows : List LineRange
  kept : List Chunk
  swallowed : List Chunk

/-- Lets each chunk in turn be swallowed by a window, if one overlaps it. -/
def sweep : List LineRange → List Chunk → Sweep
  | windows, [] => ⟨windows, [], []⟩
  | windows, chunk :: rest =>
    match swallow? chunk.span.toRange windows with
    | some grown =>
      let swept := sweep grown rest
      { swept with swallowed := chunk :: swept.swallowed }
    | none =>
      let swept := sweep windows rest
      { swept with kept := chunk :: swept.kept }

/-- Grows windows to cuts and over the chunks that they overlap, in at most `rounds` rounds in
which a chunk is swallowed. Swallowed chunks come behind `swallowed`, round by round. -/
def close (cuts : Cuts) : (rounds : Nat) → List LineRange → List Chunk → List Chunk → Sweep
  | 0, windows, chunks, swallowed =>
    ⟨LineRange.coalesce (windows.map cuts.snap), chunks, swallowed⟩
  | rounds + 1, windows, chunks, swallowed =>
    let windows := LineRange.coalesce (windows.map cuts.snap)
    let swept := sweep windows chunks
    if swept.swallowed.isEmpty then ⟨windows, chunks, swallowed⟩
    else close cuts rounds swept.windows swept.kept (swallowed ++ swept.swallowed)

/-- Grows windows until they start and end at cuts and overlap none of the chunks that are
kept. -/
def settle (cuts : Cuts) (windows : List LineRange) (chunks : List Chunk) : Sweep :=
  close cuts chunks.length windows chunks []

end Windows

end Chunking
