/-
The data form of versions. It is written with all fields in a fixed order. When
it is read, the fields that have a natural default may be missing, unknown
fields are passed over, and records other than chunks may also be written as
arrays of their fields.

A chunk may hold its lines anywhere among its fields, so in a text everything in
a chunk is read; the unknown fields of the other records are not.
-/

import Chunking.Json.Printer
import Chunking.Json.Reader
import Chunking.Version

namespace Chunking

open Number

/-! ### Writing -/

namespace Json

/-- A number of single precision; what is not finite cannot be written. -/
def single (value : Single) : Json :=
  if value.isFinite then .number (.single value) else .null

end Json

def Span.toJson (span : Span) : Json :=
  .object [("start_line", .nat span.startLine), ("end_line", .nat span.endLine)]

def Chunk.toJson (chunk : Chunk) : Json :=
  .object [("id", .string chunk.id), ("type", .string chunk.kind.tag), ("name", .string chunk.name),
    ("start_line", .nat chunk.span.startLine), ("end_line", .nat chunk.span.endLine),
    ("content_hash", .string chunk.contentHash), ("confidence", .single chunk.confidence),
    ("metadata", .object chunk.metadata.entries)]

def Tombstone.toJson (tombstone : Tombstone) : Json :=
  .object [("id", .string tombstone.id), ("type", .string tombstone.kind.tag),
    ("name", .string tombstone.name), ("line", .nat tombstone.line)]

def Lineage.toJson (lineage : Lineage) : Json :=
  .object [("ordinals", .object (lineage.ordinals.entries.map fun (key, next) => (key, .nat next))),
    ("tombstones", .array (lineage.tombstones.map Tombstone.toJson))]

def Version.toJson (version : Version) : Json :=
  .object [("file_identity", .string version.file), ("language", .string version.language.name),
    ("text_hash", .string version.textHash), ("line_count", .nat version.lineCount),
    ("chunks", .array (version.chunks.map Chunk.toJson)), ("recovered", .bool version.recovered),
    ("lineage", version.lineage.toJson), ("outline", .array (version.outline.map Span.toJson))]

/-! ### Reading -/

namespace Json

/-- A line number or a count, which has to fit in 64 bits. -/
def asCount? (json : Json) : Option Nat :=
  json.asNat?.filter (· < Word.limit)

/-- The next number of a kind and name. -/
def asOrdinal? (json : Json) : Option Nat :=
  json.asNat?.filter (· < ChunkId.ordinalLimit)

def asKind? (json : Json) : Option Kind :=
  json.asTag?.bind Kind.ofTag?

def asLanguage? (json : Json) : Option Language :=
  json.asTag?.bind Language.named?

/-- An object with entries of one sort; the last of several entries with one name stays. -/
def asDictionaryOf? {α : Type} (read : Json → Option α) : Json → Option (Dictionary α)
  | .object members =>
    (members.mapM fun (member : String × Json) =>
      (read member.2).map fun value => (member.1, value)).map Dictionary.ofList
  | _ => none

def asMetadata? (json : Json) : Option Metadata :=
  json.asDictionaryOf? fun value => some value.canonical

end Json

open Json

def Span.ofJson? (json : Json) : Option Span := do
  let [startLine, endLine] ← json.record? ["start_line", "end_line"] | none
  return ⟨← required asCount? startLine, ← required asCount? endLine⟩

def Chunk.ofJson? (json : Json) : Option Chunk := do
  let [id, kind, name, startLine, endLine, contentHash, confidence, metadata] ←
    json.members? ["id", "type", "name", "start_line", "end_line", "content_hash", "confidence",
      "metadata"] | none
  return {
    id := ← required asString? id
    kind := ← required asKind? kind
    name := ← required asString? name
    span := ⟨← required asCount? startLine, ← required asCount? endLine⟩
    contentHash := ← required asString? contentHash
    confidence := ← required asSingle? confidence
    metadata := ← withDefault {} asMetadata? metadata }

def Tombstone.ofJson? (json : Json) : Option Tombstone := do
  let [id, kind, name, line] ← json.record? ["id", "type", "name", "line"] | none
  return ⟨← required asString? id, ← required asKind? kind, ← required asString? name,
    ← required asCount? line⟩

def Lineage.ofJson? (json : Json) : Option Lineage := do
  let [ordinals, tombstones] ← json.record? ["ordinals", "tombstones"] | none
  return {
    ordinals := ← withDefault {} (asDictionaryOf? asOrdinal?) ordinals
    tombstones := ← withDefault [] (asListOf? Tombstone.ofJson?) tombstones }

def Version.ofJson? (json : Json) : Option Version := do
  let [file, language, textHash, lineCount, chunks, recovered, lineage, outline] ←
    json.record? ["file_identity", "language", "text_hash", "line_count", "chunks", "recovered",
      "lineage", "outline"] | none
  return {
    file := ← required asString? file
    language := ← required asLanguage? language
    textHash := ← required asString? textHash
    lineCount := ← required asCount? lineCount
    chunks := ← required (asListOf? Chunk.ofJson?) chunks
    recovered := ← withDefault false asBool? recovered
    lineage := ← withDefault {} Lineage.ofJson? lineage
    outline := ← withDefault [] (asListOf? Span.ofJson?) outline }

/-! ### Texts -/

def Span.shape : Shape :=
  .members [("start_line", .all), ("end_line", .all)]

def Tombstone.shape : Shape :=
  .members [("id", .all), ("type", .all), ("name", .all), ("line", .all)]

def Lineage.shape : Shape :=
  .members [("ordinals", .all), ("tombstones", .items Tombstone.shape)]

def Version.shape : Shape :=
  .members [("file_identity", .all), ("language", .all), ("text_hash", .all), ("line_count", .all),
    ("chunks", .all), ("recovered", .all), ("lineage", Lineage.shape),
    ("outline", .items Span.shape)]

def Version.toText (version : Version) : String :=
  version.toJson.compact

def Version.ofText? (text : String) : Option Version :=
  (parseIn? Version.shape text).bind Version.ofJson?

/-- The text of the metadata of a chunk. -/
def Metadata.toText (metadata : Metadata) : String :=
  (Json.object metadata.entries).compact

def Metadata.ofText? (text : String) : Option Metadata :=
  (parse? text).bind asMetadata?

end Chunking
