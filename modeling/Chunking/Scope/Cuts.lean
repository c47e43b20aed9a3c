/-
Where windows may be cut out of a new text. What stays outside of the windows is
taken over from the old version, so a cut has to fall between two of its
top-level nodes: the unchanged line next to the cut leads back to a line of the
old text, and the old outline tells whether a node runs across that place. In
addition the first line behind the cut has to look like a beginning.
-/

import Chunking.Change
import Chunking.Text.Blank

namespace Chunking

/-- What decides about cuts in a new text. -/
structure Cuts where
  /-- The lines of the new text. -/
  lines : List String
  isBoundary : Option String → String → Bool
  changes : List LineChange
  /-- The top-level nodes of the old text. -/
  outline : List Span
  /-- The number of lines of the old text. -/
  oldLineCount : Nat

namespace Changes

/-- The old line that a new line, counted from zero, was before, if no change made it. `old` and
`new` are the places behind the changes before; where changes contradict each other, the later
one prevails. -/
def originFrom (line : Nat) (old new : Nat) : List LineChange → Option Nat
  | [] => if new ≤ line then some (old + (line - new)) else none
  | change :: rest =>
    (originFrom line change.old.stop change.new.stop rest).or
      (if new ≤ line ∧ line < change.new.start then some (old + (line - new)) else none)

/-- The old line that an unchanged new line was before. -/
def origin? (changes : List LineChange) (line : Nat) : Option Nat :=
  originFrom line 0 0 changes

end Changes

namespace Cuts

/-- The number of lines of the new text. -/
def size (cuts : Cuts) : Nat :=
  cuts.lines.length

/-- Whether a top-level node runs across the place before an old line, counted from zero. -/
def straddles (cuts : Cuts) (line : Nat) : Bool :=
  line ≤ cuts.oldLineCount
    && cuts.outline.any fun node => node.startLine ≤ line && line < node.endLine

/-- Whether the first line from `line` on that is not blank may begin a construct. -/
def opensCleanly (cuts : Cuts) (line : Nat) : Bool :=
  match (cuts.lines.drop line).find? (!Text.isBlankText ·) with
  | none => true
  | some first =>
    cuts.isBoundary ((cuts.lines.take line).reverse.find? (!Text.isBlankText ·)) first

/-- Whether a window may start at a line: what is kept before it ends between old nodes. -/
def canStart (cuts : Cuts) (line : Nat) : Bool :=
  line == 0
    || ((Changes.origin? cuts.changes (line - 1)).any (fun old => !cuts.straddles (old + 1))
      && cuts.opensCleanly line)

/-- Whether a window may end before a line: what is kept from there on starts between old
nodes. -/
def canEnd (cuts : Cuts) (line : Nat) : Bool :=
  cuts.size ≤ line
    || ((Changes.origin? cuts.changes line).any (fun old => !cuts.straddles old)
      && cuts.opensCleanly line)

/-- The nearest place from `line` upwards where a window may start. -/
def startBefore (cuts : Cuts) : (line : Nat) → Nat
  | 0 => 0
  | line + 1 => if cuts.canStart (line + 1) then line + 1 else cuts.startBefore line

/-- The nearest place from `line` downwards where a window may end, at most `steps` lines off. -/
def endAfter (cuts : Cuts) : (steps line : Nat) → Nat
  | 0, line => line
  | steps + 1, line => if cuts.canEnd line then line else cuts.endAfter steps (line + 1)

/-- Grows a window until both of its ends are at cuts. -/
def snap (cuts : Cuts) (window : LineRange) : LineRange :=
  let start := cuts.startBefore (min window.start cuts.size)
  let stop := min (max window.stop start) cuts.size
  ⟨start, cuts.endAfter (cuts.size - stop) stop⟩

end Cuts

end Chunking
