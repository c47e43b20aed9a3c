/-
Versions that stand twice in the tables. Whatever is entered and removed, the rows
of the chunks of a file are those of the version that is kept of it, the counts are
those of the versions, and a call on one file does not reach another. A version
whose chunks share an id is refused, and then the tables are what they were.

The chunks of a version and the chunks of its rows come back by different ways,
through the text of the version and through the columns of the rows. Both ways keep
all that a chunk says; the one thing that a column changes is the sign of a zero,
and zeros are equal.
-/

import Chunking.Proofs.Tables
import Mathlib.Data.List.Duplicate

namespace Chunking

open Number

/-! ### Chunks that come back -/

/-- Chunks are equal if they say the same and their confidences are equal as numbers. -/
structure Chunk.Equals (left right : Chunk) : Prop where
  confidence : left.confidence.le right.confidence = true ∧
    right.confidence.le left.confidence = true
  others : { left with confidence := right.confidence } = right

/-- A chunk whose confidence, if it is zero, has no sign. -/
def Chunk.unsigned (chunk : Chunk) : Chunk :=
  { chunk with confidence := chunk.confidence.add (.ofNat 0) }

namespace Chunk

variable {chunk : Chunk}

theorem unsigned_eq_self (finite : chunk.confidence.isFinite = true)
    (different : chunk.confidence ≠ .signed true 0) : chunk.unsigned = chunk := by
  have isNumber := Confidence.not_isNaN_of_isFinite finite
  have made := Binary.signed_magnitude (by decide) chunk.confidence
  have same : chunk.confidence.add (.ofNat 0) = chunk.confidence := by
    rw [Binary.add_zero (by decide) (by decide) isNumber]
    split
    next zero =>
      rw [zero] at made
      cases sign : chunk.confidence.isNegative with
      | true => exact absurd (sign ▸ made).symm different
      | false => exact sign ▸ made
    · rfl
  rw [unsigned, same]

theorem equals_self (finite : chunk.confidence.isFinite = true) : chunk.Equals chunk := by
  have least : chunk.confidence.le chunk.confidence = true := by
    have isNumber := Confidence.not_isNaN_of_isFinite finite
    have notBelow : chunk.confidence.lt chunk.confidence = false := by
      unfold Binary.isFinite at finite
      unfold Binary.lt
      cases meant : chunk.confidence.meaning with
      | notANumber => rfl
      | infinite negative =>
        rw [meant] at finite
        cases finite
      | finite negative mantissa exponent => simp
    rw [Binary.le, isNumber, notBelow]
    rfl
  exact ⟨⟨least, least⟩, rfl⟩

theorem unsigned_equals (finite : chunk.confidence.isFinite = true) :
    chunk.unsigned.Equals chunk := by
  by_cases zero : chunk.confidence = .signed true 0
  · have zeros : ((.signed true 0 : Single).add (.ofNat 0)).le (.signed true 0) = true ∧
        (.signed true 0 : Single).le ((.signed true 0 : Single).add (.ofNat 0)) = true := by decide
    refine ⟨?_, rfl⟩
    rw [← zero] at zeros
    exact zeros
  · rw [unsigned_eq_self finite zero]
    exact equals_self finite

/-- Metadata are read from their text if their numbers are. -/
theorem Legible.ofText?_toText (legible : chunk.Legible) :
    Metadata.ofText? (Metadata.toText chunk.metadata) = some chunk.metadata := by
  have readable : (Json.object chunk.metadata.entries).isLegible Json.nestingLimit .all = true := by
    refine Json.legibleMembers_of_forall fun entry member => ⟨.all, rfl, ?_⟩
    exact Json.isLegible_mono (by decide) .all entry.2 (legible.metadata entry member).1
  rw [Metadata.ofText?, Metadata.toText, Json.parse?, Json.parseIn?_compact readable,
    Option.bind_some]
  exact Json.asMetadata?_object fun entry member => (legible.metadata entry member).2

theorem Legible.restore (legible : chunk.Legible) : Archive.restore chunk = .ok chunk.unsigned := by
  rw [Archive.restore, legible.ofText?_toText]
  rfl

end Chunk

/-! ### Versions that can be kept -/

/-- A version that the tables can keep: its numbers have a place in columns and data, and its chunks
are in the order of their first lines. -/
structure Version.Storable (version : Version) : Prop extends version.Worded where
  finite : ∀ chunk ∈ version.chunks, chunk.confidence.isFinite = true
  legible : ∀ chunk ∈ version.chunks, chunk.Legible
  low : ∀ chunk ∈ version.chunks, chunk.span.startLine < Word.signedLimit
  rising : version.chunks.Pairwise fun left right => left.span.startLine < right.span.startLine

namespace Archive

theorem distinct_of_misfit? {seen : List String} {chunks : List Chunk}
    (fits : misfit? seen chunks = none) :
    (chunks.map Chunk.id).Nodup ∧ ∀ id ∈ chunks.map Chunk.id, id ∉ seen := by
  induction chunks generalizing seen with
  | nil => exact ⟨List.nodup_nil, fun id member => by cases member⟩
  | cons chunk rest inductionHypothesis =>
    rw [misfit?] at fits
    split at fits
    · cases fits
    next free =>
      obtain ⟨distinct, unseen⟩ := inductionHypothesis fits
      have new : chunk.id ∉ seen := fun taken => free (by simp [taken])
      rw [List.map_cons, List.nodup_cons]
      refine ⟨⟨fun again => unseen _ again List.mem_cons_self, distinct⟩, fun id member => ?_⟩
      rcases List.mem_cons.mp member with rfl | later
      · exact new
      · exact fun taken => unseen id later (List.mem_cons_of_mem _ taken)

theorem duplicate_of_misfit? {seen : List String} {chunks : List Chunk} {id : String}
    (numbers : ∀ chunk ∈ chunks, chunk.confidence.isNaN = false)
    (misfit : misfit? seen chunks = some id) :
    id ∈ chunks.map Chunk.id ∧ (id ∈ seen ∨ List.Duplicate id (chunks.map Chunk.id)) := by
  induction chunks generalizing seen with
  | nil => cases misfit
  | cons chunk rest inductionHypothesis =>
    rw [misfit?, numbers chunk List.mem_cons_self, Bool.or_false] at misfit
    rw [List.map_cons]
    split at misfit
    next taken =>
      cases misfit
      exact ⟨List.mem_cons_self, Or.inl (by simpa using taken)⟩
    · obtain ⟨member, again⟩ := inductionHypothesis
        (fun other listed => numbers other (List.mem_cons_of_mem _ listed)) misfit
      refine ⟨List.mem_cons_of_mem _ member, ?_⟩
      rcases again with taken | later
      · rcases List.mem_cons.mp taken with rfl | before
        · exact Or.inr (.cons_mem member)
        · exact Or.inl before
      · exact Or.inr (later.cons_duplicate)

/-- Every version in the archive is one that can be kept, under the name of its file. -/
def Stored (archive : Archive) : Prop :=
  ∀ file, ∀ archived ∈ archive.files.get? file, ∃ snapshot : Snapshot,
    archived = entry snapshot ∧ snapshot.version.file = file ∧ snapshot.version.Storable

variable {archive : Archive}

theorem stored_empty : Stored {} := by
  rintro file archived ⟨⟩

theorem Stored.withSnapshot (stored : archive.Stored) {snapshot : Snapshot}
    (storable : snapshot.version.Storable) : (archive.withSnapshot snapshot).Stored := by
  intro file archived found
  rw [Archive.withSnapshot] at found
  by_cases same : file = snapshot.version.file
  · rw [same, Dictionary.get?_insert_self] at found
    cases found
    exact ⟨snapshot, rfl, same.symm, storable⟩
  · rw [Dictionary.get?_insert_of_ne _ same] at found
    exact stored file archived found

theorem Stored.delete (stored : archive.Stored) (file : String) :
    (archive.delete file).2.Stored := by
  intro name archived found
  have kept : archived ∈ (archive.files.erase file).get? name := found
  by_cases same : name = file
  · rw [same, Dictionary.get?_erase_self] at kept
    cases kept
  · rw [Dictionary.get?_erase_of_ne _ same] at kept
    exact stored name archived kept

/-- What is kept can be read, from the version and from the rows. -/
theorem Stored.reads (stored : archive.Stored) {file : String} {archived : Archived}
    (found : archive.files.get? file = some archived) :
    ∃ snapshot : Snapshot, snapshot.version.Storable ∧ archived = entry snapshot ∧
      archived.snapshot = .ok snapshot ∧ archive.load? file = .ok (some snapshot) ∧
      archive.chunks file = .ok (snapshot.version.chunks.map Chunk.unsigned) := by
  obtain ⟨snapshot, rfl, _, storable⟩ := stored file archived found
  have read : (entry snapshot).snapshot = .ok snapshot := by
    rw [Archived.snapshot]
    simp only [entry, storable.ofText?_toText storable.finite storable.legible]
  have sorted : snapshot.version.chunks.Pairwise fun left right =>
      decide (Word.signed left.span.startLine ≤ Word.signed right.span.startLine) = true := by
    refine storable.rising.imp_of_mem fun {left right} leftMember rightMember rising => ?_
    rw [Word.signed_of_lt (storable.low left leftMember),
      Word.signed_of_lt (storable.low right rightMember), decide_eq_true_eq]
    exact Int.ofNat_le.mpr (Nat.le_of_lt rising)
  refine ⟨snapshot, storable, rfl, read, ?_, ?_⟩
  · simp only [Archive.load?, found, read]
    rfl
  · rw [Archive.chunks, found]
    show (snapshot.version.chunks.mergeSort _).mapM restore = _
    rw [List.mergeSort_of_pairwise sorted, mapM_eq_ok_iff, List.map_map]
    exact List.map_congr_left fun chunk member => (storable.legible chunk member).restore

end Archive

/-! ### Calls -/

namespace Tables

/-- A call that changes the tables. -/
inductive Call where
  | save (version : Version) (text : String)
  | delete (file : String)

/-- The tables after a call, whether it fails or not. -/
def perform (tables : Tables) : Call → Tables
  | .save version text => (tables.save version text).2
  | .delete file => (tables.delete file).2

/-- The tables after calls. -/
def run (tables : Tables) (calls : List Call) : Tables :=
  calls.foldl perform tables

/-- Nothing is entered but versions that can be kept. -/
def Call.Storable : Call → Prop
  | .save version _ => version.Storable
  | .delete _ => True

/-- The tables hold an archive of versions that can be kept. -/
def Sound (tables : Tables) : Prop :=
  ∃ archive, tables.Holds archive ∧ archive.Stored

variable {tables : Tables}

theorem Sound.perform (sound : tables.Sound) {call : Call} (storable : call.Storable) :
    (tables.perform call).Sound := by
  obtain ⟨archive, holds, stored⟩ := sound
  cases call with
  | save version text =>
    rw [Tables.perform]
    rcases holds.save version text with ⟨failure, _, failed⟩ | ⟨after, _, done, holdsAfter⟩
    · rw [failed]
      exact ⟨archive, holds, stored⟩
    · rw [done]
      exact ⟨_, holdsAfter, stored.withSnapshot storable⟩
  | delete file => exact ⟨_, (holds.delete file).2, stored.delete file⟩

theorem Sound.run (sound : tables.Sound) {calls : List Call}
    (storable : ∀ call ∈ calls, call.Storable) : (tables.run calls).Sound := by
  induction calls generalizing tables with
  | nil => exact sound
  | cons call rest inductionHypothesis =>
    exact inductionHypothesis (sound.perform (storable call List.mem_cons_self))
      fun other member => storable other (List.mem_cons_of_mem _ member)

/-! ### What is read -/

/-- The chunks of a version, if there is one. -/
def chunksOf (found : Option Snapshot) : List Chunk :=
  found.elim [] fun snapshot => snapshot.version.chunks

/-- The rows of a file and its version say the same. -/
def Mirrors (tables : Tables) (file : String) : Prop :=
  ∃ found rows, tables.load? file = .ok found ∧ tables.chunks file = .ok rows ∧
    List.Forall₂ Chunk.Equals rows (chunksOf found) ∧
    ((∀ chunk ∈ chunksOf found, chunk.confidence ≠ .signed true 0) → rows = chunksOf found)

theorem Sound.mirrors (sound : tables.Sound) (file : String) : tables.Mirrors file := by
  obtain ⟨archive, holds, stored⟩ := sound
  cases found : archive.files.get? file with
  | none =>
    refine ⟨none, [], ?_, ?_, .nil, fun _ => rfl⟩
    · rw [holds.load?, Archive.load?, found]
    · rw [holds.chunks file (by rw [found]; rintro _ ⟨⟩), Archive.chunks, found,
        Option.elim_none, List.mergeSort_nil]
      rfl
  | some archived =>
    obtain ⟨snapshot, storable, rfl, _, load, chunks⟩ := stored.reads found
    have words : ∀ archived ∈ archive.files.get? file, ∀ chunk ∈ archived.rows,
        chunk.span.startLine < Word.limit ∧ chunk.span.endLine < Word.limit := by
      rw [found]
      rintro _ ⟨⟩
      exact storable.chunks
    refine ⟨some snapshot, _, (holds.load? file).trans load, (holds.chunks file words).trans chunks,
      ?_, fun signed => ?_⟩
    · refine List.forall₂_map_left_iff.mpr (List.forall₂_same.mpr fun chunk member => ?_)
      exact Chunk.unsigned_equals (storable.finite chunk member)
    · refine (List.map_congr_left fun chunk member => ?_).trans (List.map_id _)
      exact Chunk.unsigned_eq_self (storable.finite chunk member) (signed chunk member)

/-- The counts are those of the versions of the files that are listed. -/
def Counts (tables : Tables) : Prop :=
  ∃ (snapshots : List Snapshot) (stats : Archive.Stats),
    tables.list.map tables.load? = snapshots.map (fun snapshot => .ok (some snapshot)) ∧
    tables.stats = .ok stats ∧ stats.files = tables.list.length ∧
    stats.chunks =
      (snapshots.map fun snapshot => snapshot.version.chunks.length).foldr (· + ·) 0 ∧
    stats.recoveredFiles = snapshots.countP (·.version.recovered)

theorem Sound.counts (sound : tables.Sound) : tables.Counts := by
  obtain ⟨archive, holds, stored⟩ := sound
  have reads : ∀ entry ∈ archive.files.entries, ∃ snapshot : Snapshot,
      entry.2.snapshot = .ok snapshot ∧ archive.load? entry.1 = .ok (some snapshot) ∧
        entry.2.rows = snapshot.version.chunks := by
    intro entry member
    obtain ⟨snapshot, _, same, read, load, _⟩ :=
      stored.reads (Dictionary.get?_eq_some_iff.mpr member)
    exact ⟨snapshot, read, load, by rw [same]; rfl⟩
  obtain ⟨snapshots, loaded⟩ : ∃ snapshots, archive.loadAll = .ok snapshots :=
    exists_mapM_eq_ok fun entry member => (reads entry member).imp fun _ found => found.1
  have each := mapM_eq_ok_iff.mp loaded
  refine ⟨snapshots, _, ?_, holds.stats.trans (by rw [Archive.stats, loaded]; rfl), ?_, ?_, rfl⟩
  · rw [holds.list, show tables.load? = archive.load? from funext holds.load?, Archive.list,
      Dictionary.keys, List.map_map]
    have mapped := congrArg (List.map (Except.map some)) each
    rw [List.map_map, List.map_map] at mapped
    refine Eq.trans (List.map_congr_left fun entry member => ?_) mapped
    obtain ⟨snapshot, read, load, _⟩ := reads entry member
    simp only [Function.comp_apply, load, read]
    rfl
  · rw [holds.list]
    exact (List.length_map _).symm
  · have mapped := congrArg (List.map fun read : Except Failure Snapshot =>
      read.toOption.elim 0 fun snapshot => snapshot.version.chunks.length) each
    rw [List.map_map, List.map_map] at mapped
    refine congrArg (List.foldr (· + ·) 0) (Eq.trans ?_ mapped)
    refine List.map_congr_left fun entry member => ?_
    obtain ⟨snapshot, read, _, rows⟩ := reads entry member
    simp only [Function.comp_apply, read, rows]
    rfl

theorem mem_list {file : String} : file ∈ tables.list ↔ tables.load? file ≠ .ok none := by
  rw [Tables.list, Dictionary.mem_keys, Tables.load?]
  cases tables.files.get? file with
  | none => simp
  | some row =>
    simp only [Option.isSome_some, true_iff]
    cases row.snapshot with
    | error failure => exact fun same => by cases same
    | ok snapshot => exact fun same => by cases same

/-! ### What is changed -/

/-- Nothing is changed but what belongs to a file. -/
def Untouched (before after : Tables) (file : String) : Prop :=
  ∀ other, other ≠ file →
    after.files.get? other = before.files.get? other ∧ after.rowsOf other = before.rowsOf other

/-- A version is entered if its chunks have different ids, and otherwise refused for one of those
that are repeated. -/
structure Saves (tables : Tables) (version : Version) (text : String) : Prop where
  entered : version.ids.Nodup → (tables.save version text).1 = .ok () ∧
    (tables.save version text).2.load? version.file = .ok (some ⟨version, text⟩)
  refused : ¬ version.ids.Nodup → (tables.save version text).2 = tables ∧
    ∃ id, List.Duplicate id version.ids ∧
      (tables.save version text).1 = .error ⟨"Failed to insert chunk " ++ id, none⟩
  untouched : tables.Untouched (tables.save version text).2 version.file

theorem saves_of_storable (tables : Tables) {version : Version} (storable : version.Storable)
    (text : String) : tables.Saves version text := by
  rcases tables.save_cases version text with ⟨id, misfit, failed⟩ | ⟨fits, rows, made, done⟩
  · have repeated : List.Duplicate id version.ids :=
      (Archive.duplicate_of_misfit? (fun chunk member =>
        Confidence.not_isNaN_of_isFinite (storable.finite chunk member)) misfit).2.resolve_left
          List.not_mem_nil
    refine ⟨fun distinct => absurd repeated (List.nodup_iff_forall_not_duplicate.mp distinct id),
      fun _ => ?_, ?_⟩
    · rw [failed]
      exact ⟨rfl, id, repeated, rfl⟩
    · rw [failed]
      exact fun _ _ => ⟨rfl, rfl⟩
  · have read : (FileRow.mk version.toText text).snapshot = .ok ⟨version, text⟩ := by
      rw [FileRow.snapshot]
      simp only [storable.ofText?_toText storable.finite storable.legible]
    refine ⟨fun _ => ?_, fun repeated => absurd (Archive.distinct_of_misfit? fits).1 repeated, ?_⟩
    · rw [done]
      refine ⟨rfl, ?_⟩
      simp only [Tables.load?, withVersion, Dictionary.get?_insert_self, read]
      rfl
    · rw [done]
      exact fun other different => ⟨Dictionary.get?_insert_of_ne _ different _,
        tables.rowsOf_withVersion_of_ne made text different⟩

/-- A file is removed with all of its rows. -/
structure Deletes (tables : Tables) (file : String) : Prop where
  tells : (tables.delete file).1 = true ↔ file ∈ tables.list
  removed : (tables.delete file).2.load? file = .ok none ∧ (tables.delete file).2.rowsOf file = []
  untouched : tables.Untouched (tables.delete file).2 file

theorem deletes (tables : Tables) (file : String) : tables.Deletes file := by
  refine ⟨Dictionary.mem_keys.symm, ⟨?_, tables.rowsOf_clear_self file⟩, fun other different => ?_⟩
  · have gone : (tables.delete file).2.files.get? file = none := Dictionary.get?_erase_self _ file
    rw [Tables.load?, gone]
  · exact ⟨Dictionary.get?_erase_of_ne _ different, tables.rowsOf_clear_of_ne different⟩

/-- The tables as their users rely on them. -/
structure Faithful (tables : Tables) : Prop where
  mirrors : ∀ file, tables.Mirrors file
  counts : tables.Counts
  listed : tables.list.Nodup ∧ ∀ file, file ∈ tables.list ↔ tables.load? file ≠ .ok none
  saves : ∀ version text, version.Storable → tables.Saves version text
  deletes : ∀ file, tables.Deletes file

/-- Whatever versions are entered and whatever files are removed, with or without success, the rows
are those of the versions, and the next call changes what it is meant to change and nothing else. -/
theorem run_faithful (calls : List Call) (storable : ∀ call ∈ calls, call.Storable) :
    (run {} calls).Faithful := by
  have sound : (run {} calls).Sound :=
    Sound.run ⟨{}, holds_empty, Archive.stored_empty⟩ storable
  exact ⟨sound.mirrors, sound.counts, ⟨Dictionary.nodup_keys _, fun _ => mem_list⟩,
    fun version text kept => saves_of_storable _ kept text, fun file => Tables.deletes _ file⟩

/-- Two chunks of a file. The confidence of the second one is a zero with a sign, which no column
keeps. -/
def sampleVersion (first second : String) : Version :=
  { file := "a.py", language := .python, textHash := "", lineCount := 2
    chunks := [⟨first, .function, "f", ⟨1, 1⟩, "", usualConfidence, {}⟩,
      ⟨second, .function, "g", ⟨2, 2⟩, "", .signed true 0, {}⟩] }

theorem storable_sampleVersion (first second : String) : (sampleVersion first second).Storable := by
  have zero : ∃ numeral,
      Json.readNumber ((Binary.signed true 0 : Single).dataText Binary.singleRange).toList =
          some (numeral, []) ∧
        (Json.number numeral).asSingle? = some (Binary.signed true 0 : Single) :=
    ⟨(Json.Numeral.single (.signed true 0)).reread, by decide +kernel, by decide +kernel⟩
  refine ⟨⟨⟨?_, ⟨?_, ?_⟩⟩, ?_, ?_⟩, ?_, ?_, ?_, ?_⟩
  · exact (by decide : 2 < Word.limit)
  · intro entry member
    cases member
  · intro tombstone member
    cases member
  · simp [sampleVersion, Word.limit]
  · intro node member
    cases member
  · simp only [sampleVersion, List.forall_mem_cons]
    exact ⟨by decide, by decide, fun chunk member => by cases member⟩
  · simp only [sampleVersion, List.forall_mem_cons]
    exact ⟨Chunk.legible_of_usual rfl rfl, ⟨zero, fun entry member => by cases member⟩,
      fun chunk member => by cases member⟩
  · simp [sampleVersion, Word.signedLimit]
  · simp [sampleVersion]

theorem run_faithful_refused :
    let tables := run {} [.save (sampleVersion "a" "b") "f\ng\n"]
    tables.Faithful ∧
      tables.load? "a.py" = .ok (some ⟨sampleVersion "a" "b", "f\ng\n"⟩) ∧
      (tables.save (sampleVersion "a" "a") "g\nf\n").2 = tables := by
  intro tables
  have faithful : tables.Faithful := run_faithful _ fun call member => by
    cases List.mem_singleton.mp member
    exact storable_sampleVersion "a" "b"
  have first := saves_of_storable {} (storable_sampleVersion "a" "b") "f\ng\n"
  exact ⟨faithful, (first.entered (by decide)).2,
    ((faithful.saves _ "g\nf\n" (storable_sampleVersion "a" "a")).refused (by decide)).1⟩

end Tables

end Chunking
