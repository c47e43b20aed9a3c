/-
Stretches of lines, in the two ways they are counted. A span names its first
and its last line, counted from one; a range runs from a line counted from zero
up to a line that no longer belongs to it. Both may be empty or turned around,
since they also come from outside.
-/

namespace Chunking

/-- The lines from `start` up to, but without, `stop`, counted from zero. -/
structure LineRange where
  start : Nat
  stop : Nat
  deriving DecidableEq, Repr, Inhabited

namespace LineRange

def size (range : LineRange) : Nat :=
  range.stop - range.start

def isEmpty (range : LineRange) : Bool :=
  range.stop ≤ range.start

/-- Whether two ranges that are not empty share a line. -/
def overlaps (left right : LineRange) : Bool :=
  left.start < right.stop && right.start < left.stop

end LineRange

/-- The lines from `startLine` to `endLine`, both included, counted from one. -/
structure Span where
  startLine : Nat
  endLine : Nat
  deriving DecidableEq, Repr, Inhabited

namespace Span

def size (span : Span) : Nat :=
  span.endLine + 1 - span.startLine

def isEmpty (span : Span) : Bool :=
  span.endLine < span.startLine

def overlaps (left right : Span) : Bool :=
  left.startLine ≤ right.endLine && right.startLine ≤ left.endLine

/-- How many lines lie between a line and the nearest one of the span. -/
def distanceTo (span : Span) (line : Nat) : Nat :=
  if line < span.startLine then span.startLine - line else line - span.endLine

def toRange (span : Span) : LineRange :=
  ⟨span.startLine - 1, span.endLine⟩

/-- The span moved down by a number of lines. -/
def offset (span : Span) (lines : Nat) : Span :=
  ⟨span.startLine + lines, span.endLine + lines⟩

def text (span : Span) : String :=
  toString span.startLine ++ "-" ++ toString span.endLine

end Span

end Chunking
