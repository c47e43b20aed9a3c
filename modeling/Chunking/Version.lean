/-
Versions: what is known about one state of a file. A version keeps the rules
that everything else relies on: its chunks are in order, disjoint and inside of
the file, their ids are distinct, the outline is in order and inside of the file,
and the digests are those of the text. A check tells the first rule that a
version breaks.
-/

import Chunking.Error
import Chunking.Lineage
import Chunking.LineIndex

namespace Chunking

/-- One state of a file. -/
structure Version where
  file : String
  language : Language
  /-- The digest of the whole text. -/
  textHash : String
  lineCount : Nat
  chunks : List Chunk
  /-- Whether the parse had to pass over errors. -/
  recovered : Bool := false
  lineage : Lineage := {}
  /-- The lines of the top-level nodes, in the order of the text. -/
  outline : List Span := []
  deriving Repr

/-- A rule that a version breaks. -/
inductive Violation where
  | chunkOutside (id : String) (span : Span) (lineCount : Nat)
  | chunksOverlap (firstId : String) (first : Span) (secondId : String) (second : Span)
  | duplicateId (id : String)
  | outlineMisplaced (node : Span) (lineCount : Nat)
  | lineCountMismatch (recorded actual : Nat)
  | staleHash (id : String)
  | textMismatch
  deriving DecidableEq, Repr

def Violation.message : Violation → String
  | .chunkOutside id span lineCount =>
    "chunk " ++ id ++ " span " ++ span.text ++ " outside 1..=" ++ toString lineCount
  | .chunksOverlap firstId first secondId second =>
    "chunks " ++ firstId ++ " (" ++ first.text ++ ") and " ++ secondId ++ " (" ++ second.text
      ++ ") overlap or are out of order"
  | .duplicateId id => "duplicate id " ++ id
  | .outlineMisplaced node lineCount =>
    "outline node " ++ node.text ++ " out of order or outside 1..=" ++ toString lineCount
  | .lineCountMismatch recorded actual =>
    "line count " ++ toString recorded ++ " does not match text (" ++ toString actual ++ " lines)"
  | .staleHash id => "stale content hash for " ++ id
  | .textMismatch => "text hash does not match the supplied text"

namespace Version

def ids (version : Version) : List String :=
  version.chunks.map Chunk.id

/-! ### The rules -/

/-- Whether a span is inside of a file with the given number of lines. -/
def fits (lineCount : Nat) (span : Span) : Bool :=
  span.isProper && span.endLine ≤ lineCount

/-- The first fault among chunks that follow `previous`, when the ids `seen` are taken. -/
def chunkFault? (lineCount : Nat) : (seen : List String) → (previous : Option Chunk) →
    List Chunk → Option Violation
  | _, _, [] => none
  | seen, previous, chunk :: rest =>
    if !fits lineCount chunk.span then some (.chunkOutside chunk.id chunk.span lineCount)
    else
      match previous.filter (chunk.span.startLine ≤ ·.span.endLine) with
      | some earlier => some (.chunksOverlap earlier.id earlier.span chunk.id chunk.span)
      | none =>
        if seen.contains chunk.id then some (.duplicateId chunk.id)
        else chunkFault? lineCount (chunk.id :: seen) (some chunk) rest

/-- The first fault in an outline whose nodes may not start before line `least`. -/
def outlineFault? (lineCount : Nat) : (least : Nat) → List Span → Option Violation
  | _, [] => none
  | least, node :: rest =>
    if fits lineCount node && least ≤ node.startLine then
      outlineFault? lineCount node.startLine rest
    else some (.outlineMisplaced node lineCount)

/-- The first disagreement between a version and a text. -/
def textFault? (version : Version) (index : LineIndex) : Option Violation :=
  if index.size ≠ version.lineCount then
    some (.lineCountMismatch version.lineCount index.size)
  else
    (version.chunks.find? fun chunk =>
      index.spanDigest? chunk.span.startLine chunk.span.endLine != some chunk.contentHash).map
      fun chunk => .staleHash chunk.id

/-- The first rule that a version breaks; without a text only the rules that need none count. -/
def fault? (version : Version) (text : Option String) : Option Violation :=
  (chunkFault? version.lineCount [] none version.chunks).or
    ((outlineFault? version.lineCount 1 version.outline).or
      (text.bind fun text => version.textFault? (LineIndex.ofText text)))

/-- The error of a version that breaks a rule. -/
def violated (version : Version) (violation : Violation) : Error :=
  .invariantViolation version.file violation.message

/-- Checks all rules. -/
def validate (version : Version) (text : Option String) : Except Error Unit :=
  match version.fault? text with
  | none => .ok ()
  | some violation => .error (version.violated violation)

end Version

end Chunking
