/-
Patterns that select files by their paths. A pattern is a row of tokens, each of
which takes a piece of the path: a star takes part of one segment, a question
mark one byte of a segment, a double star anything at all, and every other byte
itself. The slash behind a double star belongs to it, so that it can also stand
for no directory. A pattern without a slash is tried on the name of the file,
too.
-/

import Chunking.Text.Affix
import Chunking.Text.Path

namespace Chunking

namespace Pattern

def slash : UInt8 := 47

/-- A part of a pattern. -/
inductive Token where
  /-- Any bytes. -/
  | anything
  /-- Any bytes but a slash. -/
  | withinSegment
  /-- One byte but a slash. -/
  | oneByte
  | literal (byte : UInt8)
  deriving DecidableEq, Repr

/-- Reads a pattern from left to right. -/
def tokens : List UInt8 → List Token
  | 42 :: 42 :: 47 :: rest => .anything :: tokens rest
  | 42 :: 42 :: rest => .anything :: tokens rest
  | 42 :: rest => .withinSegment :: tokens rest
  | 63 :: rest => .oneByte :: tokens rest
  | byte :: rest => .literal byte :: tokens rest
  | [] => []

/-- All ends of a list of bytes, the list itself first. -/
def suffixes : List UInt8 → List (List UInt8)
  | [] => [[]]
  | byte :: rest => (byte :: rest) :: suffixes rest

/-- The ends that are left when part of the first segment is taken away. -/
def segmentSuffixes : List UInt8 → List (List UInt8)
  | [] => [[]]
  | byte :: rest => (byte :: rest) :: if byte = slash then [] else segmentSuffixes rest

/-- Whether bytes can be cut into pieces for all tokens. -/
def covers : List Token → List UInt8 → Bool
  | [], bytes => bytes.isEmpty
  | .anything :: rest, bytes => (suffixes bytes).any (covers rest)
  | .withinSegment :: rest, bytes => (segmentSuffixes bytes).any (covers rest)
  | .oneByte :: rest, bytes =>
    match bytes with
    | [] => false
    | byte :: after => byte != slash && covers rest after
  | .literal expected :: rest, bytes =>
    match bytes with
    | [] => false
    | byte :: after => byte == expected && covers rest after

def bytesOf (text : String) : List UInt8 :=
  text.toUTF8.toList

/-- Whether a pattern covers a whole text. -/
def wildcard (pattern text : String) : Bool :=
  covers (tokens (bytesOf pattern)) (bytesOf text)

/-- Whether a pattern selects a path. -/
def selects (pattern path : String) : Bool :=
  wildcard pattern path
    || (!Text.containsChar '/' pattern && wildcard pattern (Text.Path.lastSegment path))

end Pattern

end Chunking
