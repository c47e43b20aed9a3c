/-
The forms in which a version may stand as data. A version is written with all of its
fields in their order, but it is read from looser forms as well: the fields of an
object may stand in any order among others that mean nothing, a field that holds its
default may be missing, and a node of the outline may be an array of its two lines.
All of this may happen at once and at every level, and what is read is the version.

For each record there is a relation that says in which data it is written, and one
lemma that reads it from them. The metadata of a chunk are open: their values are
kept as they are, as long as every object in them has its members sorted by name.
-/

import Chunking.Proofs.Persistence

namespace Chunking

open Number

namespace Json

/-! ### Sorted values -/

mutual

/-- The members of every object in the value are sorted by name, and no name is repeated. -/
def IsSorted : Json → Prop
  | .array items => SortedItems items
  | .object members => (members.map Prod.fst).Pairwise (· < ·) ∧ SortedMembers members
  | .null => True
  | .bool _ => True
  | .number _ => True
  | .string _ => True

def SortedItems : List Json → Prop
  | [] => True
  | item :: rest => item.IsSorted ∧ SortedItems rest

def SortedMembers : List (String × Json) → Prop
  | [] => True
  | (_, value) :: rest => value.IsSorted ∧ SortedMembers rest

end

mutual

/-- A sorted value is in canonical form. -/
theorem canonical_of_isSorted (json : Json) (sorted : json.IsSorted) : json.canonical = json := by
  cases json with
  | array items =>
    rw [IsSorted] at sorted
    rw [canonical, canonicalItems_of_sorted items sorted]
  | object members =>
    rw [IsSorted] at sorted
    rw [canonical, canonicalMembers_of_sorted members sorted.2]
    exact congrArg (fun dictionary => Json.object dictionary.entries)
      (Dictionary.ofList_entries ⟨members, sorted.1⟩)
  | null => rfl
  | bool value => rfl
  | number value => rfl
  | string value => rfl

theorem canonicalItems_of_sorted (items : List Json) (sorted : SortedItems items) :
    canonicalItems items = items := by
  cases items with
  | nil => rfl
  | cons item rest =>
    rw [SortedItems] at sorted
    rw [canonicalItems, canonical_of_isSorted item sorted.1, canonicalItems_of_sorted rest sorted.2]

theorem canonicalMembers_of_sorted (members : List (String × Json))
    (sorted : SortedMembers members) : canonicalMembers members = members := by
  cases members with
  | nil => rfl
  | cons member rest =>
    obtain ⟨name, value⟩ := member
    rw [SortedMembers] at sorted
    rw [canonicalMembers, canonical_of_isSorted value sorted.1,
      canonicalMembers_of_sorted rest sorted.2]

end

mutual

theorem mapNumbers_id (json : Json) : json.mapNumbers id = json := by
  cases json with
  | array items => rw [mapNumbers, mapNumbersItems_id items]
  | object members => rw [mapNumbers, mapNumbersMembers_id members]
  | null => rfl
  | bool value => rfl
  | number value => rfl
  | string value => rfl

theorem mapNumbersItems_id (items : List Json) : mapNumbersItems id items = items := by
  cases items with
  | nil => rfl
  | cons item rest => rw [mapNumbersItems, mapNumbers_id item, mapNumbersItems_id rest]

theorem mapNumbersMembers_id (members : List (String × Json)) :
    mapNumbersMembers id members = members := by
  cases members with
  | nil => rfl
  | cons member rest =>
    obtain ⟨name, value⟩ := member
    rw [mapNumbersMembers, mapNumbers_id value, mapNumbersMembers_id rest]

end

theorem keepsCounts_id : KeepsCounts id := fun _ _ => rfl

/-! ### Fields -/

section

variable {members : List (String × Json)} {name : String} {form : Json → Prop}

/-- One member has the name, and its value is of the form. Nothing is said about the members with
other names. -/
def Holds (members : List (String × Json)) (name : String) (form : Json → Prop) : Prop :=
  ∃ value, members.filter (·.1 == name) = [(name, value)] ∧ form value

/-- One member has the name, and its value is of the form; or the field may be omitted, and no
member has the name. -/
def HoldsOrOmits (omittable : Prop) (members : List (String × Json)) (name : String)
    (form : Json → Prop) : Prop :=
  Holds members name form ∨ omittable ∧ ∀ member ∈ members, member.1 ≠ name

theorem Holds.unique (holds : Holds members name form) :
    ∃ value, uniqueMember? members name = some (some value) ∧ form value := by
  obtain ⟨value, alone, formed⟩ := holds
  refine ⟨value, ?_, formed⟩
  rw [uniqueMember?, alone]

theorem uniqueMember?_of_forall_ne (missing : ∀ member ∈ members, member.1 ≠ name) :
    uniqueMember? members name = some none := by
  have nothing : members.filter (·.1 == name) = [] := by
    rw [List.filter_eq_nil_iff]
    intro member listed
    rw [beq_iff_eq]
    exact missing member listed
  rw [uniqueMember?, nothing]

variable {α : Type} {meant : α} {read : Json → Option α}

theorem Holds.reads (holds : Holds members name form)
    (reads : ∀ value, form value → read value = some meant) :
    ∃ field, uniqueMember? members name = some field ∧
      required read field = some meant := by
  obtain ⟨value, found, formed⟩ := holds.unique
  exact ⟨some value, found, reads value formed⟩

theorem HoldsOrOmits.reads {default : α}
    (holds : HoldsOrOmits (meant = default) members name form)
    (reads : ∀ value, form value → read value = some meant) :
    ∃ field, uniqueMember? members name = some field ∧
      withDefault default read field = some meant := by
  rcases holds with holds | ⟨rfl, missing⟩
  · obtain ⟨value, found, formed⟩ := holds.unique
    exact ⟨some value, found, reads value formed⟩
  · exact ⟨none, uniqueMember?_of_forall_ne missing, rfl⟩

end

/-- An array with a form of each item. -/
def ArrayOf {α : Type} (form : α → Json → Prop) (items : List α) (json : Json) : Prop :=
  ∃ forms, json = .array forms ∧ List.Forall₂ form items forms

theorem ArrayOf.map {α : Type} {form : α → Json → Prop} {write : α → Json}
    (writes : ∀ item, form item (write item)) (items : List α) :
    ArrayOf form items (.array (items.map write)) := by
  refine ⟨items.map write, rfl, ?_⟩
  rw [List.forall₂_map_right_iff]
  exact List.forall₂_same.mpr fun item _ => writes item

theorem ArrayOf.reads {α : Type} {form : α → Json → Prop} {read : Json → Option α}
    {items : List α} {json : Json} (array : ArrayOf form items json)
    (reads : ∀ item ∈ items, ∀ written, form item written → read written = some item) :
    json.asListOf? read = some items := by
  obtain ⟨forms, rfl, formed⟩ := array
  change forms.mapM read = some items
  induction formed with
  | nil => rfl
  | cons first _ inductionHypothesis =>
    rw [List.mapM_cons, reads _ List.mem_cons_self _ first,
      inductionHypothesis fun item member => reads item (List.mem_cons_of_mem _ member)]
    rfl

end Json

open Json

/-! ### Records -/

/-- The data in which a span may be written. -/
inductive Span.WrittenAs (span : Span) : Json → Prop
  | object {members : List (String × Json)}
      (startLine : Holds members "start_line" (· = .nat span.startLine))
      (endLine : Holds members "end_line" (· = .nat span.endLine)) :
      span.WrittenAs (.object members)
  | pair : span.WrittenAs (.array [.nat span.startLine, .nat span.endLine])

/-- The data in which a tombstone may be written. -/
inductive Tombstone.WrittenAs (tombstone : Tombstone) : Json → Prop
  | object {members : List (String × Json)}
      (id : Holds members "id" (· = .string tombstone.id))
      (kind : Holds members "type" (· = .string tombstone.kind.tag))
      (name : Holds members "name" (· = .string tombstone.name))
      (line : Holds members "line" (· = .nat tombstone.line)) :
      tombstone.WrittenAs (.object members)

/-- The data in which a lineage may be written. -/
inductive Lineage.WrittenAs (lineage : Lineage) : Json → Prop
  | object {members : List (String × Json)}
      (ordinals : HoldsOrOmits (lineage.ordinals = {}) members "ordinals"
        (· = .object (lineage.ordinals.entries.map fun entry => (entry.1, .nat entry.2))))
      (tombstones : HoldsOrOmits (lineage.tombstones = []) members "tombstones"
        (ArrayOf Tombstone.WrittenAs lineage.tombstones)) :
      lineage.WrittenAs (.object members)

/-- The data in which a chunk may be written. -/
inductive Chunk.WrittenAs (chunk : Chunk) : Json → Prop
  | object {members : List (String × Json)}
      (id : Holds members "id" (· = .string chunk.id))
      (kind : Holds members "type" (· = .string chunk.kind.tag))
      (name : Holds members "name" (· = .string chunk.name))
      (startLine : Holds members "start_line" (· = .nat chunk.span.startLine))
      (endLine : Holds members "end_line" (· = .nat chunk.span.endLine))
      (contentHash : Holds members "content_hash" (· = .string chunk.contentHash))
      (confidence : Holds members "confidence" (· = .single chunk.confidence))
      (metadata : HoldsOrOmits (chunk.metadata = {}) members "metadata"
        (· = .object chunk.metadata.entries)) :
      chunk.WrittenAs (.object members)

/-- The data in which a version may be written. -/
inductive Version.WrittenAs (version : Version) : Json → Prop
  | object {members : List (String × Json)}
      (file : Holds members "file_identity" (· = .string version.file))
      (language : Holds members "language" (· = .string version.language.name))
      (textHash : Holds members "text_hash" (· = .string version.textHash))
      (lineCount : Holds members "line_count" (· = .nat version.lineCount))
      (chunks : Holds members "chunks" (ArrayOf Chunk.WrittenAs version.chunks))
      (recovered : HoldsOrOmits (version.recovered = false) members "recovered"
        (· = .bool version.recovered))
      (lineage : HoldsOrOmits (version.lineage = {}) members "lineage" version.lineage.WrittenAs)
      (outline : HoldsOrOmits (version.outline = []) members "outline"
        (ArrayOf Span.WrittenAs version.outline)) :
      version.WrittenAs (.object members)

/-! ### Writing -/

theorem Span.writtenAs_toJson (span : Span) : span.WrittenAs span.toJson :=
  .object ⟨_, rfl, rfl⟩ ⟨_, rfl, rfl⟩

theorem Tombstone.writtenAs_toJson (tombstone : Tombstone) :
    tombstone.WrittenAs tombstone.toJson :=
  .object ⟨_, rfl, rfl⟩ ⟨_, rfl, rfl⟩ ⟨_, rfl, rfl⟩ ⟨_, rfl, rfl⟩

theorem Lineage.writtenAs_toJson (lineage : Lineage) : lineage.WrittenAs lineage.toJson :=
  .object (.inl ⟨_, rfl, rfl⟩)
    (.inl ⟨_, rfl, ArrayOf.map Tombstone.writtenAs_toJson lineage.tombstones⟩)

theorem Chunk.writtenAs_toJson (chunk : Chunk) : chunk.WrittenAs chunk.toJson :=
  .object ⟨_, rfl, rfl⟩ ⟨_, rfl, rfl⟩ ⟨_, rfl, rfl⟩ ⟨_, rfl, rfl⟩ ⟨_, rfl, rfl⟩ ⟨_, rfl, rfl⟩
    ⟨_, rfl, rfl⟩ (.inl ⟨_, rfl, rfl⟩)

theorem Version.writtenAs_toJson (version : Version) : version.WrittenAs version.toJson :=
  .object ⟨_, rfl, rfl⟩ ⟨_, rfl, rfl⟩ ⟨_, rfl, rfl⟩ ⟨_, rfl, rfl⟩
    ⟨_, rfl, ArrayOf.map Chunk.writtenAs_toJson version.chunks⟩ (.inl ⟨_, rfl, rfl⟩)
    (.inl ⟨_, rfl, version.lineage.writtenAs_toJson⟩)
    (.inl ⟨_, rfl, ArrayOf.map Span.writtenAs_toJson version.outline⟩)

/-! ### Reading -/

section

variable {members : List (String × Json)} {name : String}

theorem Json.Holds.reads_string {text : String} (holds : Holds members name (· = .string text)) :
    ∃ field, uniqueMember? members name = some field ∧
      required asString? field = some text :=
  holds.reads fun _ same => by rw [same]; rfl

theorem Json.Holds.reads_count {count : Nat} (holds : Holds members name (· = .nat count))
    (fits : count < Word.limit) :
    ∃ field, uniqueMember? members name = some field ∧
      required asCount? field = some count :=
  holds.reads fun _ same => by rw [same]; exact asCount?_nat keepsCounts_id fits

theorem Json.Holds.reads_kind {kind : Kind} (holds : Holds members name (· = .string kind.tag)) :
    ∃ field, uniqueMember? members name = some field ∧
      required asKind? field = some kind :=
  holds.reads fun _ same => by rw [same]; exact Kind.ofTag?_tag kind

theorem Json.Holds.reads_language {language : Language}
    (holds : Holds members name (· = .string language.name)) :
    ∃ field, uniqueMember? members name = some field ∧
      required asLanguage? field = some language :=
  holds.reads fun _ same => by rw [same]; exact Language.named?_name language

theorem Json.HoldsOrOmits.reads_bool {flag : Bool}
    (holds : HoldsOrOmits (flag = false) members name (· = .bool flag)) :
    ∃ field, uniqueMember? members name = some field ∧
      withDefault false asBool? field = some flag :=
  holds.reads fun _ same => by rw [same]; rfl

theorem Json.Holds.reads_single {value : Single} (holds : Holds members name (· = .single value))
    (finite : value.isFinite = true) :
    ∃ field, uniqueMember? members name = some field ∧ required asSingle? field = some value :=
  holds.reads fun _ same => by rw [same, single, if_pos finite]; rfl

end

theorem Span.ofJson?_of_writtenAs {span : Span} {json : Json} (written : span.WrittenAs json)
    (first : span.startLine < Word.limit) (last : span.endLine < Word.limit) :
    Span.ofJson? json = some span := by
  cases written with
  | object startLine endLine =>
    obtain ⟨_, foundStart, readStart⟩ := startLine.reads_count first
    obtain ⟨_, foundEnd, readEnd⟩ := endLine.reads_count last
    simp [Span.ofJson?, record?, members?, foundStart, foundEnd, readStart, readEnd]
  | pair =>
    have readStart : (Json.nat span.startLine).asCount? = some span.startLine :=
      asCount?_nat keepsCounts_id first
    have readEnd : (Json.nat span.endLine).asCount? = some span.endLine :=
      asCount?_nat keepsCounts_id last
    simp [Span.ofJson?, record?, required, readStart, readEnd]

theorem Tombstone.ofJson?_of_writtenAs {tombstone : Tombstone} {json : Json}
    (written : tombstone.WrittenAs json) (fits : tombstone.line < Word.limit) :
    Tombstone.ofJson? json = some tombstone := by
  obtain ⟨id, kind, name, line⟩ := written
  obtain ⟨_, foundId, readId⟩ := id.reads_string
  obtain ⟨_, foundKind, readKind⟩ := kind.reads_kind
  obtain ⟨_, foundName, readName⟩ := name.reads_string
  obtain ⟨_, foundLine, readLine⟩ := line.reads_count fits
  simp [Tombstone.ofJson?, record?, members?, foundId, foundKind, foundName, foundLine, readId,
    readKind, readName, readLine]

theorem Lineage.ofJson?_of_writtenAs {lineage : Lineage} {json : Json}
    (written : lineage.WrittenAs json) (sized : lineage.Sized) :
    Lineage.ofJson? json = some lineage := by
  obtain ⟨ordinals, tombstones⟩ := written
  have written : (Json.object (lineage.ordinals.entries.map
      fun entry => (entry.1, .nat entry.2))).asDictionaryOf? asOrdinal? =
        some lineage.ordinals := by
    rw [← mapNumbers_id (.object _)]
    exact asDictionaryOf?_object fun entry member =>
      asOrdinal?_nat keepsCounts_id (sized.ordinals entry member)
  obtain ⟨_, foundOrdinals, readOrdinals⟩ := ordinals.reads fun _ same => by
    rw [same]
    exact written
  obtain ⟨_, foundTombstones, readTombstones⟩ := tombstones.reads fun _ array =>
    array.reads fun tombstone member _ written =>
      Tombstone.ofJson?_of_writtenAs written (sized.lines tombstone member)
  simp [Lineage.ofJson?, record?, members?, foundOrdinals, foundTombstones, readOrdinals,
    readTombstones]

theorem Chunk.ofJson?_of_writtenAs {chunk : Chunk} {json : Json} (written : chunk.WrittenAs json)
    (first : chunk.span.startLine < Word.limit) (last : chunk.span.endLine < Word.limit)
    (finite : chunk.confidence.isFinite = true)
    (sorted : ∀ entry ∈ chunk.metadata.entries, entry.2.IsSorted) :
    Chunk.ofJson? json = some chunk := by
  obtain ⟨id, kind, name, startLine, endLine, contentHash, confidence, metadata⟩ := written
  obtain ⟨_, foundId, readId⟩ := id.reads_string
  obtain ⟨_, foundKind, readKind⟩ := kind.reads_kind
  obtain ⟨_, foundName, readName⟩ := name.reads_string
  obtain ⟨_, foundStart, readStart⟩ := startLine.reads_count first
  obtain ⟨_, foundEnd, readEnd⟩ := endLine.reads_count last
  obtain ⟨_, foundHash, readHash⟩ := contentHash.reads_string
  obtain ⟨_, foundConfidence, readConfidence⟩ := confidence.reads_single finite
  have kept : (Json.object chunk.metadata.entries).asMetadata? = some chunk.metadata := by
    rw [← mapNumbers_id (.object _)]
    refine asMetadata?_object fun entry member => ?_
    rw [mapNumbers_id]
    exact canonical_of_isSorted entry.2 (sorted entry member)
  obtain ⟨_, foundMetadata, readMetadata⟩ := metadata.reads fun _ same => by
    rw [same]
    exact kept
  simp [Chunk.ofJson?, members?, foundId, foundKind, foundName, foundStart, foundEnd, foundHash,
    foundConfidence, foundMetadata, readId, readKind, readName, readStart, readEnd, readHash,
    readConfidence, readMetadata]

namespace Version

variable {version : Version}

theorem WrittenAs.ofJson?_eq {json : Json} (written : version.WrittenAs json)
    (worded : version.Worded)
    (finite : ∀ chunk ∈ version.chunks, chunk.confidence.isFinite = true)
    (sorted : ∀ chunk ∈ version.chunks, ∀ entry ∈ chunk.metadata.entries, entry.2.IsSorted) :
    Version.ofJson? json = some version := by
  obtain ⟨file, language, textHash, lineCount, chunks, recovered, lineage, outline⟩ := written
  obtain ⟨_, foundFile, readFile⟩ := file.reads_string
  obtain ⟨_, foundLanguage, readLanguage⟩ := language.reads_language
  obtain ⟨_, foundHash, readHash⟩ := textHash.reads_string
  obtain ⟨_, foundCount, readCount⟩ := lineCount.reads_count worded.lineCount
  obtain ⟨_, foundChunks, readChunks⟩ := chunks.reads fun _ array =>
    array.reads fun chunk member _ written =>
      Chunk.ofJson?_of_writtenAs written (worded.chunks chunk member).1
        (worded.chunks chunk member).2 (finite chunk member) (sorted chunk member)
  obtain ⟨_, foundRecovered, readRecovered⟩ := recovered.reads_bool
  obtain ⟨_, foundLineage, readLineage⟩ := lineage.reads fun _ written =>
    Lineage.ofJson?_of_writtenAs written worded.lineage
  obtain ⟨_, foundOutline, readOutline⟩ := outline.reads fun _ array =>
    array.reads fun node member _ written =>
      Span.ofJson?_of_writtenAs written (worded.outline node member).1
        (worded.outline node member).2
  simp [Version.ofJson?, record?, members?, foundFile, foundLanguage, foundHash, foundCount,
    foundChunks, foundRecovered, foundLineage, foundOutline, readFile, readLanguage, readHash,
    readCount, readChunks, readRecovered, readLineage, readOutline]

/-- A version is written in one of its forms, and from each of its forms it is read as it was:
whatever unknown fields stand in the version, its chunks, its lineage, the tombstones and the nodes
of the outline, whichever fields are missing because they hold their defaults, and whichever nodes
are pairs. It is asked that counts fit in words and ordinals in theirs, that confidences are finite,
and that the objects in metadata are sorted. -/
theorem ofJson?_of_anyForm (worded : version.Worded)
    (finite : ∀ chunk ∈ version.chunks, chunk.confidence.isFinite = true)
    (sorted : ∀ chunk ∈ version.chunks, ∀ entry ∈ chunk.metadata.entries, entry.2.IsSorted) :
    version.WrittenAs version.toJson ∧
      ∀ json, version.WrittenAs json → Version.ofJson? json = some version :=
  ⟨version.writtenAs_toJson, fun _ written => written.ofJson?_eq worded finite sorted⟩

/-- A version with metadata in one of its two chunks, and with an outline and a tombstone. -/
def outlined : Version :=
  { file := "a.py", language := .python, textHash := "h", lineCount := 5
    chunks := [⟨"a", .function, "f", ⟨1, 2⟩, "p", usualConfidence, ⟨[("async", .bool true),
        ("calls", .array [.object [("at", .number (.integer (-1))), ("to", .null)]])], by decide⟩⟩,
      ⟨"b", .classDef, "", ⟨4, 5⟩, "q", usualConfidence, {}⟩]
    lineage := { tombstones := [⟨"c", .function, "g", 3⟩] }
    outline := [⟨1, 2⟩, ⟨4, 5⟩] }

/-- Data from which the version is read: there are unknown fields at every level, one chunk has no
metadata, the lineage has no ordinals, nothing is said about recovery, and the second node of the
outline is a pair. -/
def outlinedForm : Json :=
  .object [("outline", .array [.object [("end_line", .nat 2), ("depth", .nat 0),
      ("start_line", .nat 1)], .array [.nat 4, .nat 5]]),
    ("lineage", .object [("tombstones", .array [.object [("line", .nat 3), ("id", .string "c"),
      ("name", .string "g"), ("reason", .null), ("type", .string "function")]]), ("age", .nat 7)]),
    ("schema", .object [("file_identity", .null)]), ("file_identity", .string "a.py"),
    ("chunks", .array [.object [("span", .null), ("id", .string "a"), ("type", .string "function"),
        ("name", .string "f"), ("start_line", .nat 1), ("end_line", .nat 2),
        ("content_hash", .string "p"), ("confidence", .single usualConfidence),
        ("metadata", .object [("async", .bool true), ("calls", .array [.object
          [("at", .number (.integer (-1))), ("to", .null)]])])],
      .object [("name", .string ""), ("id", .string "b"), ("type", .string "class"),
        ("start_line", .nat 4), ("end_line", .nat 5), ("content_hash", .string "q"),
        ("confidence", .single usualConfidence), ("owner", .string "n")]]),
    ("language", .string "python"), ("text_hash", .string "h"), ("line_count", .nat 5)]

theorem ofJson?_outlinedForm :
    outlined.WrittenAs outlinedForm ∧ Version.ofJson? outlinedForm = some outlined := by
  have written : outlined.WrittenAs outlinedForm :=
    .object ⟨_, rfl, rfl⟩ ⟨_, rfl, rfl⟩ ⟨_, rfl, rfl⟩ ⟨_, rfl, rfl⟩
      ⟨_, rfl, _, rfl, .cons (.object ⟨_, rfl, rfl⟩ ⟨_, rfl, rfl⟩ ⟨_, rfl, rfl⟩ ⟨_, rfl, rfl⟩
          ⟨_, rfl, rfl⟩ ⟨_, rfl, rfl⟩ ⟨_, rfl, rfl⟩ (.inl ⟨_, rfl, rfl⟩))
        (.cons (.object ⟨_, rfl, rfl⟩ ⟨_, rfl, rfl⟩ ⟨_, rfl, rfl⟩ ⟨_, rfl, rfl⟩ ⟨_, rfl, rfl⟩
          ⟨_, rfl, rfl⟩ ⟨_, rfl, rfl⟩ (.inr ⟨rfl, by simp⟩)) .nil)⟩
      (.inr ⟨rfl, by simp⟩)
      (.inl ⟨_, rfl, .object (.inr ⟨rfl, by simp⟩) (.inl ⟨_, rfl, _, rfl, .cons
        (.object ⟨_, rfl, rfl⟩ ⟨_, rfl, rfl⟩ ⟨_, rfl, rfl⟩ ⟨_, rfl, rfl⟩) .nil⟩)⟩)
      (.inl ⟨_, rfl, _, rfl, .cons (.object ⟨_, rfl, rfl⟩ ⟨_, rfl, rfl⟩) (.cons .pair .nil)⟩)
  have worded : outlined.Worded := by
    refine ⟨⟨by decide,
      ⟨by simp [outlined, EmptyCollection.emptyCollection, Dictionary.empty], ?_⟩⟩, ?_, ?_⟩
    all_goals simp [outlined, Word.limit]
  refine ⟨written, (ofJson?_of_anyForm worded ?_ ?_).2 _ written⟩
  · simp only [outlined, List.forall_mem_cons]
    exact ⟨by decide, by decide, fun _ member => by cases member⟩
  · simp only [outlined, List.forall_mem_cons]
    exact ⟨⟨trivial, ⟨⟨by decide, trivial, trivial, trivial⟩, trivial⟩,
      (fun _ member => by cases member)⟩, (fun _ member => by cases member),
      fun _ member => by cases member⟩

end Version

end Chunking
