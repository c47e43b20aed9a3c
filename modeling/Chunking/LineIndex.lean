/-
The line index of a text: its lines with their terminators, in order. All line
numbers of chunks, changes and windows are places in this list. Text is taken
out of it in two ways: a slice keeps every terminator, so slices can be put
together again, and the text of a span leaves out the one at its end.
-/

import Chunking.Digest
import Chunking.Text.Lines

namespace Chunking

/-- The lines of a text, each with its terminator. -/
structure LineIndex where
  rows : List String
  deriving DecidableEq, Repr

namespace LineIndex

def ofText (text : String) : LineIndex :=
  ⟨Text.rawLines text⟩

/-- The number of lines. -/
def size (index : LineIndex) : Nat :=
  index.rows.length

def isEmpty (index : LineIndex) : Bool :=
  index.rows.isEmpty

/-- The contents of all lines, without terminators. -/
def lines (index : LineIndex) : List String :=
  index.rows.map Text.stripEnding

/-- The content of a line, counted from zero. -/
def line? (index : LineIndex) (line : Nat) : Option String :=
  index.lines[line]?

/-- The text from line `start` up to, but without, line `stop`, counted from zero. -/
def slice (index : LineIndex) (start stop : Nat) : String :=
  String.join ((index.rows.drop start).take (stop - start))

/-- The text of the lines from `startLine` to `endLine`, counted from one, without the last
terminator. -/
def spanText? (index : LineIndex) (startLine endLine : Nat) : Option String :=
  if startLine = 0 ∨ endLine < startLine ∨ index.size < endLine then none
  else some (Text.stripEnding (index.slice (startLine - 1) endLine))

/-- The digest of the text of a span. -/
def spanDigest? (index : LineIndex) (startLine endLine : Nat) : Option String :=
  (index.spanText? startLine endLine).map Digest.ofText

end LineIndex

end Chunking
