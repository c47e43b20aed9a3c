/-
Changes between two texts, as ranges of lines. A list of changes tells where the
lines of the old text went: a line behind some changes moves by as many lines as
they added, and a line inside a change lands at the same distance in what
replaced it, or at its last line.
-/

import Chunking.Span
import Chunking.Word

namespace Chunking

/-- The lines `old` of one text became the lines `new` of another. -/
structure LineChange where
  old : LineRange
  new : LineRange
  deriving DecidableEq, Repr

namespace LineChange

/-- By how many lines everything behind the change moves. -/
def delta (change : LineChange) : Int :=
  Word.signed change.new.size - Word.signed change.old.size

def isInsertion (change : LineChange) : Bool :=
  change.old.isEmpty

def isDeletion (change : LineChange) : Bool :=
  change.new.isEmpty

/-- Whether the change touches a range of old lines. An insertion does so only if it falls
strictly inside. -/
def touches (change : LineChange) (range : LineRange) : Bool :=
  if change.isInsertion then range.start < change.old.start && change.old.start < range.stop
  else change.old.overlaps range

end LineChange

namespace Changes

/-- How many lines the changes concern, each change by the longer of its sides. -/
def changedLines (changes : List LineChange) : Nat :=
  (changes.map fun change => max change.old.size change.new.size).foldr (· + ·) 0

/-- By how many lines an old line, counted from zero, moves because of the changes before it. -/
def deltaAt (changes : List LineChange) (line : Nat) : Int :=
  ((changes.takeWhile (·.old.stop ≤ line)).map LineChange.delta).foldr (· + ·) 0

/-- Where an old line outside of all changes goes, counted from one. -/
def shift (changes : List LineChange) (line : Nat) : Nat :=
  Word.moved line (deltaAt changes (line - 1))

/-- Where a line counted from zero goes, when changes before it moved it by `delta` already. -/
def mapLineFrom (delta : Int) (line : Nat) : List LineChange → Nat
  | [] => Word.moved line delta
  | change :: rest =>
    if change.old.stop ≤ line then mapLineFrom (delta + change.delta) line rest
    else if change.old.start ≤ line then
      min (change.new.start + (line - change.old.start)) (max (change.new.stop - 1) change.new.start)
    else Word.moved line delta

/-- The best guess for where any old line goes, counted from zero. -/
def mapLine (changes : List LineChange) (line : Nat) : Nat :=
  mapLineFrom 0 line changes

/-- Where the lines of an old span go that no change touches. -/
def shiftSpan (changes : List LineChange) (span : Span) : Span :=
  ⟨shift changes span.startLine, shift changes span.endLine⟩

end Changes

end Chunking
