/-
The line index of a text as a table of offsets. Nothing is kept but the text and, for
each of its lines, the byte at which the line starts: the first byte of the text, and
the one behind each line feed, unless the text ends there. Lines, spans and slices are
cut out of the text between two such bytes. A cut inside of a character has no result.
-/

import Chunking.Digest
import Chunking.Text.Bytes
import Chunking.Text.Lines

namespace Chunking

/-- A text, and the bytes at which its lines start. -/
structure LineStarts where
  text : String
  starts : List Nat
  deriving DecidableEq, Repr

namespace LineStarts

/-- The places behind the line feeds of characters of which the first is at byte `offset`. -/
def behindFeeds (offset : Nat) : List Char → List Nat
  | [] => []
  | char :: rest =>
    if char = '\n' then (offset + 1) :: behindFeeds (offset + 1) rest
    else behindFeeds (offset + char.utf8Size) rest

def ofText (text : String) : LineStarts :=
  if text = "" then ⟨text, []⟩
  else ⟨text, 0 :: (behindFeeds 0 text.toList).filter (· < text.utf8ByteSize)⟩

/-- The number of lines. -/
def size (index : LineStarts) : Nat :=
  index.starts.length

def isEmpty (index : LineStarts) : Bool :=
  index.starts.isEmpty

/-- The byte at which a line starts, counted from zero; where there is no such line, the end of the
text. -/
def offset (index : LineStarts) (line : Nat) : Nat :=
  index.starts[line]?.getD index.text.utf8ByteSize

/-- The content of a line, counted from zero. -/
def line? (index : LineStarts) (line : Nat) : Option String :=
  index.starts[line]?.bind fun start =>
    (Text.byteSlice? start (index.offset (line + 1)) index.text).map Text.stripEnding

/-- The text of the lines from `startLine` to `endLine`, counted from one, without the last
terminator. -/
def spanText? (index : LineStarts) (startLine endLine : Nat) : Option String :=
  if startLine = 0 ∨ endLine < startLine ∨ index.size < endLine then none
  else
    index.starts[startLine - 1]?.bind fun start =>
      (Text.byteSlice? start (index.offset endLine) index.text).map Text.stripEnding

/-- The digest of the text of a span. -/
def spanDigest? (index : LineStarts) (startLine endLine : Nat) : Option String :=
  (index.spanText? startLine endLine).map Digest.ofText

/-- The text from line `start` up to, but without, line `stop`, counted from zero. -/
def slice? (index : LineStarts) (start stop : Nat) : Option String :=
  Text.byteSlice? (index.offset start) (max (index.offset stop) (index.offset start)) index.text

/-- The contents of all lines, without terminators. -/
def lines (index : LineStarts) : List String :=
  (List.range index.size).filterMap index.line?

end LineStarts

end Chunking
