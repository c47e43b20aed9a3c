/-
The archive keeps versions beyond the life of an engine. For every file it holds
the version as data, the text, and a row for each chunk, so that chunks can be
looked up without the version. A version is either entered with all of its rows
or not at all. What comes back is what the written data says: numbers that are
not finite make a version unreadable, and doubles in metadata may come back
changed in their last place.
-/

import Chunking.Store
import Chunking.Version.Json

namespace Chunking

/-- What is kept of one file. -/
structure Archived where
  /-- The version as written data. -/
  document : String
  text : String
  /-- The chunks, in the order in which they were entered. -/
  rows : List Chunk
  deriving Repr

/-- The version and the text, if the version can be read again. -/
def Archived.snapshot (archived : Archived) : Except Failure Snapshot :=
  match Version.ofText? archived.document with
  | some version => .ok ⟨version, archived.text⟩
  | none => .error ⟨"Failed to decode stored file version", none⟩

structure Archive where
  files : Dictionary Archived := {}
  /-- When all files were last gone through. -/
  lastIndexed : Option String := none
  deriving Repr

namespace Archive

instance : Inhabited Archive := ⟨{}⟩

structure Stats where
  files : Nat
  chunks : Nat
  /-- How many files have a version that passed over errors. -/
  recoveredFiles : Nat
  lastIndexed : Option String
  deriving Repr

/-! ### Entering -/

/-- The first chunk that cannot be entered as a row, because its id is among `seen` or repeated, or
because its confidence is no number. -/
def misfit? : (seen : List String) → List Chunk → Option String
  | _, [] => none
  | seen, chunk :: rest =>
    if seen.contains chunk.id || chunk.confidence.isNaN then some chunk.id
    else misfit? (chunk.id :: seen) rest

/-- Enters a version with its text, in place of the one that its file had. -/
def save (archive : Archive) (version : Version) (text : String) : Except Failure Archive :=
  match misfit? [] version.chunks with
  | some id => .error ⟨"Failed to insert chunk " ++ id, none⟩
  | none =>
    .ok { archive with
      files := archive.files.insert version.file ⟨version.toText, text, version.chunks⟩ }

/-- Removes a file, and tells whether it was there. -/
def delete (archive : Archive) (file : String) : Bool × Archive :=
  (archive.files.contains file, { archive with files := archive.files.erase file })

/-- Notes that all files have been gone through. -/
def markIndexed (archive : Archive) (time : String) : Archive :=
  { archive with lastIndexed := some time }

/-! ### Reading -/

/-- The version and the text of a file. -/
def load? (archive : Archive) (file : String) : Except Failure (Option Snapshot) :=
  match archive.files.get? file with
  | none => .ok none
  | some archived => archived.snapshot.map some

/-- All versions, by the names of their files. -/
def loadAll (archive : Archive) : Except Failure (List Snapshot) :=
  archive.files.entries.mapM fun (_, archived) => archived.snapshot

/-- The names of all files. -/
def list (archive : Archive) : List String :=
  archive.files.keys

/-- A row as it comes back: its metadata are read from their text, and a confidence of zero has no
sign. -/
def restore (row : Chunk) : Except Failure Chunk :=
  match Metadata.ofText? (Metadata.toText row.metadata) with
  | some metadata => .ok { row with confidence := row.confidence.add (.ofNat 0), metadata }
  | none => .error ⟨"Invalid metadata for chunk " ++ row.id, none⟩

/-- The rows of a file, by their first lines as signed words. -/
def chunks (archive : Archive) (file : String) : Except Failure (List Chunk) :=
  (((archive.files.get? file).elim [] Archived.rows).mergeSort fun left right =>
    Word.signed left.span.startLine ≤ Word.signed right.span.startLine).mapM restore

def stats (archive : Archive) : Except Failure Stats := do
  let snapshots ← archive.loadAll
  return {
    files := archive.files.size
    chunks := (archive.files.entries.map fun (_, archived) => archived.rows.length).foldr (· + ·) 0
    recoveredFiles := snapshots.countP (·.version.recovered)
    lastIndexed := archive.lastIndexed }

end Archive

end Chunking
