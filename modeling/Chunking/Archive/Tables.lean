/-
The tables of an archive. A version stands in them twice: as a whole in the row of
its file, and in one row for each of its chunks. A column does not take every
value as it is. Line numbers become signed words, confidences doubles, in a column
that keeps no sign of a zero and takes nothing that is no number; kinds become
their tags and metadata text. The rows of a version are entered one after the
other, and each of them may be refused: there can be only one row for an id in a
file, and none for a file without a row. Then nothing of what was done before is
kept.
-/

import Chunking.Archive

namespace Chunking

open Number

/-- A row of the table of files. -/
structure FileRow where
  /-- The version as written data. -/
  document : String
  text : String
  deriving DecidableEq, Repr

namespace FileRow

/-- The version and the text, if the version can be read again. -/
def snapshot (row : FileRow) : Except Failure Snapshot :=
  match Version.ofText? row.document with
  | some version => .ok ⟨version, row.text⟩
  | none => .error ⟨"Failed to decode stored file version", none⟩

end FileRow

/-- A row of the table of chunks. -/
structure ChunkRow where
  file : String
  id : String
  /-- The tag of the kind. -/
  kind : String
  name : String
  startLine : Int
  endLine : Int
  contentHash : String
  confidence : Double
  /-- The metadata as written data. -/
  metadata : String
  deriving DecidableEq, Repr

namespace ChunkRow

/-- What a column of numbers keeps of a number. -/
def real? (number : Double) : Option Double :=
  if number.isNaN then none
  else if number.magnitude = 0 then some (.signed false 0)
  else some number

/-- The row of a chunk, if its confidence is a number. -/
def ofChunk? (file : String) (chunk : Chunk) : Option ChunkRow :=
  (real? chunk.confidence.convert).map fun confidence =>
    { file
      id := chunk.id
      kind := chunk.kind.tag
      name := chunk.name
      startLine := Word.signed chunk.span.startLine
      endLine := Word.signed chunk.span.endLine
      contentHash := chunk.contentHash
      confidence
      metadata := Metadata.toText chunk.metadata }

/-- The chunk of a row. -/
def toChunk (row : ChunkRow) : Except Failure Chunk :=
  match Kind.ofTag? row.kind with
  | none => .error ⟨"Unknown chunk type " ++ row.kind, none⟩
  | some kind =>
    match Metadata.ofText? row.metadata with
    | none => .error ⟨"Invalid metadata for chunk " ++ row.id, none⟩
    | some metadata =>
      .ok { id := row.id
            kind
            name := row.name
            span := ⟨Word.ofSigned row.startLine, Word.ofSigned row.endLine⟩
            contentHash := row.contentHash
            confidence := row.confidence.convert
            metadata }

end ChunkRow

structure Tables where
  files : Dictionary FileRow := {}
  /-- The rows of the chunks of all files, in the order in which they were entered. -/
  chunkRows : List ChunkRow := []
  /-- When all files were last gone through. -/
  lastIndexed : Option String := none
  deriving DecidableEq, Repr

namespace Tables

/-! ### Statements -/

/-- Gives a file a row, in place of the one that it had. -/
def upsert (tables : Tables) (version : Version) (text : String) : Tables :=
  { tables with files := tables.files.insert version.file ⟨version.toText, text⟩ }

/-- Removes the rows of the chunks of a file. -/
def clear (tables : Tables) (file : String) : Tables :=
  { tables with chunkRows := tables.chunkRows.filter (·.file != file) }

/-- Whether a row keeps to its keys: its file has a row, and its id has none yet. -/
def accepts (tables : Tables) (row : ChunkRow) : Bool :=
  tables.files.contains row.file
    && !tables.chunkRows.any fun other => other.file == row.file && other.id == row.id

/-- Enters the row of a chunk. -/
def insertChunk (file : String) (tables : Tables) (chunk : Chunk) : Except Failure Tables :=
  match (ChunkRow.ofChunk? file chunk).filter tables.accepts with
  | some row => .ok { tables with chunkRows := tables.chunkRows ++ [row] }
  | none => .error ⟨"Failed to insert chunk " ++ chunk.id, none⟩

/-! ### Entering -/

/-- The statements that enter a version with its text, as far as they come. -/
def enter (tables : Tables) (version : Version) (text : String) : Except Failure Tables :=
  version.chunks.foldlM (insertChunk version.file)
    ((tables.upsert version text).clear version.file)

/-- Enters a version with its text, in place of the one that its file had; what a failing statement
leaves behind is taken back. -/
def save (tables : Tables) (version : Version) (text : String) : Except Failure Unit × Tables :=
  match tables.enter version text with
  | .ok entered => (.ok (), entered)
  | .error failure => (.error failure, tables)

/-- Removes the rows of a file, and tells whether it was there. -/
def delete (tables : Tables) (file : String) : Bool × Tables :=
  let cleared := tables.clear file
  (cleared.files.contains file, { cleared with files := cleared.files.erase file })

/-- Notes that all files have been gone through. -/
def markIndexed (tables : Tables) (time : String) : Tables :=
  { tables with lastIndexed := some time }

/-! ### Reading -/

/-- The version and the text of a file. -/
def load? (tables : Tables) (file : String) : Except Failure (Option Snapshot) :=
  match tables.files.get? file with
  | none => .ok none
  | some row => row.snapshot.map some

/-- All versions, by the names of their files. -/
def loadAll (tables : Tables) : Except Failure (List Snapshot) :=
  tables.files.entries.mapM fun (_, row) => row.snapshot

/-- The names of all files. -/
def list (tables : Tables) : List String :=
  tables.files.keys

/-- The rows of the chunks of a file, in the order in which they were entered. -/
def rowsOf (tables : Tables) (file : String) : List ChunkRow :=
  tables.chunkRows.filter (·.file == file)

/-- The chunks of a file, by the columns of their first lines. -/
def chunks (tables : Tables) (file : String) : Except Failure (List Chunk) :=
  ((tables.rowsOf file).mergeSort fun left right => left.startLine ≤ right.startLine).mapM
    ChunkRow.toChunk

def stats (tables : Tables) : Except Failure Archive.Stats := do
  let snapshots ← tables.loadAll
  return {
    files := tables.files.size
    chunks := tables.chunkRows.length
    recoveredFiles := snapshots.countP (·.version.recovered)
    lastIndexed := tables.lastIndexed }

end Tables

end Chunking
