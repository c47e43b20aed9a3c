/-
Versions in their data form. Every field is read back from where it was written,
and it is enough for this that numbers are read as the same numbers: counts as
counts, a confidence as the same confidence, and the numbers in metadata as those
that they were. So the records are read back from any form of their data in which
only the numbers are written otherwise.
-/

import Chunking.Proofs.Dictionary
import Chunking.Proofs.JsonTexts
import Chunking.Version.Json

namespace Chunking

open Number

namespace Json

variable {change : Numeral → Numeral}

theorem mapNumbersItems_eq_map (items : List Json) :
    mapNumbersItems change items = items.map (mapNumbers change) := by
  induction items with
  | nil => rfl
  | cons item rest inductionHypothesis =>
    rw [mapNumbersItems, inductionHypothesis, List.map_cons]

theorem mapNumbersMembers_eq_map (members : List (String × Json)) :
    mapNumbersMembers change members =
      members.map fun member => (member.1, member.2.mapNumbers change) := by
  induction members with
  | nil => rfl
  | cons member rest inductionHypothesis =>
    rw [mapNumbersMembers, inductionHypothesis, List.map_cons]

/-- Whether counts are kept when numbers are read. -/
def KeepsCounts (change : Numeral → Numeral) : Prop :=
  ∀ count : Nat, count < Word.limit → change (.integer count) = .integer count

theorem asCount?_nat (keeps : KeepsCounts change) {count : Nat} (fits : count < Word.limit) :
    ((Json.nat count).mapNumbers change).asCount? = some count := by
  rw [nat, mapNumbers, keeps count fits]
  exact Option.filter_some_pos (decide_eq_true fits)

theorem asOrdinal?_nat (keeps : KeepsCounts change) {ordinal : Nat}
    (fits : ordinal < ChunkId.ordinalLimit) :
    ((Json.nat ordinal).mapNumbers change).asOrdinal? = some ordinal := by
  have word : ordinal < Word.limit := Nat.lt_trans fits (by decide)
  rw [nat, mapNumbers, keeps ordinal word]
  exact Option.filter_some_pos (decide_eq_true fits)

theorem mapM_map_eq_some {α β : Type} {write : α → β} {read : β → Option α} {items : List α}
    (reads : ∀ item ∈ items, read (write item) = some item) :
    (items.map write).mapM read = some items := by
  induction items with
  | nil => rfl
  | cons item rest inductionHypothesis =>
    rw [List.map_cons, List.mapM_cons, reads item List.mem_cons_self,
      inductionHypothesis fun other member => reads other (List.mem_cons_of_mem _ member)]
    rfl

theorem asListOf?_array {α : Type} {read : Json → Option α} {write : α → Json} {items : List α}
    (reads : ∀ item ∈ items, read ((write item).mapNumbers change) = some item) :
    ((Json.array (items.map write)).mapNumbers change).asListOf? read = some items := by
  rw [mapNumbers, mapNumbersItems_eq_map, List.map_map]
  exact mapM_map_eq_some reads

theorem asDictionaryOf?_object {α : Type} {read : Json → Option α} {write : α → Json}
    {dictionary : Dictionary α}
    (reads : ∀ entry ∈ dictionary.entries,
      read ((write entry.2).mapNumbers change) = some entry.2) :
    ((Json.object (dictionary.entries.map fun entry => (entry.1, write entry.2))).mapNumbers
      change).asDictionaryOf? read = some dictionary := by
  rw [mapNumbers, mapNumbersMembers_eq_map, List.map_map, asDictionaryOf?, mapM_map_eq_some,
    Option.map_some, Dictionary.ofList_entries]
  intro entry member
  simp only [Function.comp_apply, reads entry member, Option.map_some]

end Json

open Json

variable {change : Numeral → Numeral}

theorem Kind.ofTag?_tag (kind : Kind) : Kind.ofTag? kind.tag = some kind := by
  cases kind <;> rfl

theorem Language.named?_name (language : Language) :
    Language.named? language.name = some language := by
  cases language <;> rfl

theorem Span.ofJson?_mapNumbers (keeps : KeepsCounts change) {span : Span}
    (first : span.startLine < Word.limit) (last : span.endLine < Word.limit) :
    Span.ofJson? (span.toJson.mapNumbers change) = some span := by
  have fields : (span.toJson.mapNumbers change).record? ["start_line", "end_line"] =
      some [some ((Json.nat span.startLine).mapNumbers change),
        some ((Json.nat span.endLine).mapNumbers change)] :=
    rfl
  rw [Span.ofJson?, fields]
  simp [required, asCount?_nat keeps, first, last]

theorem Tombstone.ofJson?_mapNumbers (keeps : KeepsCounts change) {tombstone : Tombstone}
    (fits : tombstone.line < Word.limit) :
    Tombstone.ofJson? (tombstone.toJson.mapNumbers change) = some tombstone := by
  have fields : (tombstone.toJson.mapNumbers change).record? ["id", "type", "name", "line"] =
      some [some (.string tombstone.id), some (.string tombstone.kind.tag),
        some (.string tombstone.name), some ((Json.nat tombstone.line).mapNumbers change)] :=
    rfl
  rw [Tombstone.ofJson?, fields]
  simp [required, asCount?_nat keeps fits, asString?, asKind?, asTag?, Kind.ofTag?_tag]

/-- The numbers of a lineage are those of the data form. -/
structure Lineage.Sized (lineage : Lineage) : Prop where
  ordinals : ∀ entry ∈ lineage.ordinals.entries, entry.2 < ChunkId.ordinalLimit
  lines : ∀ tombstone ∈ lineage.tombstones, tombstone.line < Word.limit

theorem Lineage.ofJson?_mapNumbers (keeps : KeepsCounts change) {lineage : Lineage}
    (sized : lineage.Sized) :
    Lineage.ofJson? (lineage.toJson.mapNumbers change) = some lineage := by
  have fields : (lineage.toJson.mapNumbers change).record? ["ordinals", "tombstones"] =
      some [some ((Json.object (lineage.ordinals.entries.map
          fun entry => (entry.1, .nat entry.2))).mapNumbers change),
        some ((Json.array (lineage.tombstones.map Tombstone.toJson)).mapNumbers change)] :=
    rfl
  have ordinals : ((Json.object (lineage.ordinals.entries.map
      fun entry => (entry.1, .nat entry.2))).mapNumbers change).asDictionaryOf? asOrdinal? =
        some lineage.ordinals :=
    asDictionaryOf?_object fun entry member => asOrdinal?_nat keeps (sized.ordinals entry member)
  have tombstones := asListOf?_array fun tombstone member =>
    Tombstone.ofJson?_mapNumbers keeps (sized.lines tombstone member)
  rw [Lineage.ofJson?, fields]
  simp [withDefault, ordinals, tombstones]

/-! ### Chunks and versions -/

/-- The numbers of a chunk are read as the same numbers. -/
structure Chunk.KeptBy (change : Numeral → Numeral) (chunk : Chunk) : Prop where
  startLine : chunk.span.startLine < Word.limit
  endLine : chunk.span.endLine < Word.limit
  confidence : ((Json.single chunk.confidence).mapNumbers change).asSingle? = some chunk.confidence
  metadata : ∀ entry ∈ chunk.metadata.entries, (entry.2.mapNumbers change).canonical = entry.2

theorem Json.asMetadata?_object {metadata : Metadata}
    (kept : ∀ entry ∈ metadata.entries, (entry.2.mapNumbers change).canonical = entry.2) :
    ((Json.object metadata.entries).mapNumbers change).asMetadata? = some metadata := by
  have read := @asDictionaryOf?_object change Json (fun value => some value.canonical)
    (fun value => value) metadata fun entry member => congrArg some (kept entry member)
  rwa [List.map_id'] at read

theorem Chunk.ofJson?_mapNumbers (keeps : KeepsCounts change) {chunk : Chunk}
    (kept : chunk.KeptBy change) :
    Chunk.ofJson? (chunk.toJson.mapNumbers change) = some chunk := by
  have fields : (chunk.toJson.mapNumbers change).members? ["id", "type", "name", "start_line",
      "end_line", "content_hash", "confidence", "metadata"] =
      some [some (.string chunk.id), some (.string chunk.kind.tag), some (.string chunk.name),
        some ((Json.nat chunk.span.startLine).mapNumbers change),
        some ((Json.nat chunk.span.endLine).mapNumbers change), some (.string chunk.contentHash),
        some ((Json.single chunk.confidence).mapNumbers change),
        some ((Json.object chunk.metadata.entries).mapNumbers change)] :=
    rfl
  rw [Chunk.ofJson?, fields]
  simp [required, withDefault, asString?, asKind?, asTag?, Kind.ofTag?_tag,
    asCount?_nat keeps kept.startLine, asCount?_nat keeps kept.endLine, kept.confidence,
    asMetadata?_object kept.metadata]

/-- The numbers of a version are read as the same numbers. -/
structure Version.KeptBy (change : Numeral → Numeral) (version : Version) : Prop where
  lineCount : version.lineCount < Word.limit
  chunks : ∀ chunk ∈ version.chunks, chunk.KeptBy change
  lineage : version.lineage.Sized
  outline : ∀ node ∈ version.outline, node.startLine < Word.limit ∧ node.endLine < Word.limit

/-- A version is read from its data form. -/
theorem Version.ofJson?_mapNumbers (keeps : KeepsCounts change) {version : Version}
    (kept : version.KeptBy change) :
    Version.ofJson? (version.toJson.mapNumbers change) = some version := by
  have fields : (version.toJson.mapNumbers change).record? ["file_identity", "language",
      "text_hash", "line_count", "chunks", "recovered", "lineage", "outline"] =
      some [some (.string version.file), some (.string version.language.name),
        some (.string version.textHash), some ((Json.nat version.lineCount).mapNumbers change),
        some ((Json.array (version.chunks.map Chunk.toJson)).mapNumbers change),
        some (.bool version.recovered), some (version.lineage.toJson.mapNumbers change),
        some ((Json.array (version.outline.map Span.toJson)).mapNumbers change)] :=
    rfl
  have chunks := asListOf?_array fun chunk member =>
    Chunk.ofJson?_mapNumbers keeps (kept.chunks chunk member)
  have outline := asListOf?_array fun node member =>
    Span.ofJson?_mapNumbers keeps (kept.outline node member).1 (kept.outline node member).2
  rw [Version.ofJson?, fields]
  simp [required, withDefault, asString?, asBool?, asLanguage?, asTag?, Language.named?_name,
    asCount?_nat keeps kept.lineCount, chunks, Lineage.ofJson?_mapNumbers keeps kept.lineage,
    outline]

end Chunking
