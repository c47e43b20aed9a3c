/-
The data form of an archive, in which it outlives the program. Every file is
written with its version, its text and its rows, so that reading does not have
to derive one from the other.
-/

import Chunking.Archive

namespace Chunking

open Json

def Archived.toJson (archived : Archived) : Json :=
  .object [("version", .string archived.document), ("text", .string archived.text),
    ("rows", .array (archived.rows.map Chunk.toJson))]

def Archive.toJson (archive : Archive) : Json :=
  .object [
    ("files", .object (archive.files.entries.map fun (file, archived) => (file, archived.toJson))),
    ("last_indexed", .stringOrNull archive.lastIndexed)]

def Archived.ofJson? (json : Json) : Option Archived := do
  let [document, text, rows] ← json.members? ["version", "text", "rows"] | none
  return {
    document := ← required asString? document
    text := ← required asString? text
    rows := ← required (asListOf? Chunk.ofJson?) rows }

def Archive.ofJson? (json : Json) : Option Archive := do
  let [files, lastIndexed] ← json.members? ["files", "last_indexed"] | none
  return {
    files := ← required (asDictionaryOf? Archived.ofJson?) files
    lastIndexed := ← nullable asString? lastIndexed }

end Chunking
