/-
Constructs of one kind and name. Where no old id is to be had for them they are
numbered from zero on, whatever other ids there are in the file. Where a dropped
chunk of the same key is left, its id is taken over.
-/

import Chunking.Proofs.Identifiers
import Chunking.Proofs.Sums
import Chunking.Proofs.Validity

namespace Chunking

namespace Merge

/-- The constructs since `start` are of one kind and name, and were numbered from zero on since there
is no old id to be had for them. -/
structure Progress.Counted (policy : Policy) (kind : Kind) (name : String)
    (start progress : Progress) : Prop where
  others : ∀ dead ∈ start.unclaimed, dead.chunk.key ≠ ChunkId.key kind name
  unclaimed : progress.unclaimed = start.unclaimed
  forgotten : progress.lineage.tombstones = []
  next : progress.lineage.nextOrdinal (ChunkId.key kind name) = progress.chunks.length
  elsewhere : ∀ key, key ≠ ChunkId.key kind name →
    progress.lineage.nextOrdinal key = start.lineage.nextOrdinal key
  ids : progress.chunks.map Chunk.id =
    ((List.range progress.chunks.length).map (ChunkId.format policy.file kind name)).reverse
  live : progress.live = progress.chunks.map Chunk.id

variable {policy : Policy} {kind : Kind} {name : String} {start progress : Progress}

theorem Progress.Counted.step (counted : Counted policy kind name start progress)
    {fresh : FreshChunk} (alike : fresh.draft.kind = kind ∧ fresh.draft.name = name) :
    Counted policy kind name start (Merge.step policy progress fresh) := by
  have readable : ChunkId.Readable fun kind' name' => kind' = kind ∧ name' = name := by
    rintro file _ _ _ _ ordinal ordinal' ⟨rfl, rfl⟩ ⟨rfl, rfl⟩ _ _ same
    exact ⟨rfl, ChunkId.format_ordinal_inj same⟩
  rcases step_cases policy progress fresh with ⟨dead, place, listed, sameKey, _⟩ |
    ⟨_, tombstone, place, listed, _⟩ | ⟨before, id, after, ordinals, tombstones, given, stepped⟩
  · rw [FreshChunk.key, alike.1, alike.2] at sameKey
    rw [counted.unclaimed] at listed
    exact absurd sameKey (counted.others dead (List.mem_of_getElem? listed))
  · rw [counted.forgotten] at listed
    cases listed
  · have same (key : String) : before.nextOrdinal key = progress.lineage.nextOrdinal key := by
      rw [Lineage.nextOrdinal, ordinals]
      rfl
    have known : ∀ id ∈ progress.live,
        before.Knows policy.file (fun kind' name' => kind' = kind ∧ name' = name) id := by
      intro id member
      rw [counted.live, counted.ids, List.mem_reverse] at member
      obtain ⟨ordinal, below, rfl⟩ := List.mem_map.mp member
      refine ⟨⟨_, kind, name⟩, rfl, ⟨rfl, rfl⟩, ordinal, ?_, rfl⟩
      exact Nat.lt_of_lt_of_eq (List.mem_range.mp below) ((same _).trans counted.next).symm
    rw [alike.1, alike.2, Lineage.allocate_eq readable ⟨rfl, rfl⟩ before.within_true trivial known, same,
      counted.next] at given
    obtain ⟨rfl, rfl⟩ := Prod.mk.inj given
    rw [stepped]
    refine ⟨counted.others, counted.unclaimed, ?_, ?_, fun key other => ?_, ?_, ?_⟩
    · rw [counted.forgotten, List.sublist_nil] at tombstones
      exact tombstones
    · rw [Lineage.advance, Lineage.nextOrdinal_insert_self, same, counted.next]
      rfl
    · rw [Lineage.advance, Lineage.nextOrdinal, Dictionary.get?_insert_of_ne _ other]
      exact (same key).trans (counted.elsewhere key other)
    · simp only [List.map_cons, List.length_cons, List.range_succ, List.map_append,
        List.reverse_append, counted.ids]
      rfl
    · simp only [List.map_cons, counted.live]
      rfl

theorem Progress.Counted.foldl (counted : Counted policy kind name start progress)
    {constructs : List FreshChunk}
    (alike : ∀ fresh ∈ constructs, fresh.draft.kind = kind ∧ fresh.draft.name = name) :
    Counted policy kind name start (constructs.foldl (Merge.step policy) progress) := by
  induction constructs generalizing progress with
  | nil => exact counted
  | cons fresh rest inductionHypothesis =>
    exact inductionHypothesis (counted.step (alike fresh List.mem_cons_self))
      fun other member => alike other (List.mem_cons_of_mem _ member)

section oneName

variable {fresh : List FreshChunk} {invalidated : List Invalidated} {lineage : Lineage}
  (alike : ∀ construct ∈ fresh, construct.draft.kind = kind ∧ construct.draft.name = name)
  (others : ∀ dead ∈ invalidated, dead.chunk.key ≠ ChunkId.key kind name)
  (forgotten : lineage.tombstones = []) (unused : lineage.nextOrdinal (ChunkId.key kind name) = 0)
  (changes : List LineChange)

include alike others forgotten unused

theorem closing_counted : Progress.Counted policy kind name
    (opening [] fresh invalidated lineage changes)
    (closing policy [] fresh invalidated lineage changes) := by
  have nobody : dropped [] fresh invalidated = invalidated := List.append_nil _
  have start : Progress.Counted policy kind name (opening [] fresh invalidated lineage changes)
      (opening [] fresh invalidated lineage changes) := by
    refine ⟨fun dead member => ?_, rfl, ?_, ?_, fun _ _ => rfl, rfl, rfl⟩
    · rw [opening, nobody] at member
      exact others dead (List.mem_mergeSort.mp member)
    · rw [opening, Lineage.tombstones_foldl_observe, Lineage.shift, forgotten]
      rfl
    · rw [opening, nobody]
      refine (Lineage.nextOrdinal_foldl_observe (fun chunk member => ?_) _).trans unused
      obtain ⟨dead, among, rfl⟩ := List.mem_map.mp member
      exact (others dead among).symm
  exact start.foldl fun construct member =>
    alike construct (FreshChunk.mem_of_mem_dropOverlapping member)

theorem length_closing :
    (closing policy [] fresh invalidated lineage changes).lineage.nextOrdinal
        (ChunkId.key kind name) = (FreshChunk.dropOverlapping fresh).length ∧
      (closing policy [] fresh invalidated lineage changes).chunks.length =
        (FreshChunk.dropOverlapping fresh).length := by
  have counted : Progress.Counted policy kind name (opening [] fresh invalidated lineage changes)
      (closing policy [] fresh invalidated lineage changes) :=
    closing_counted alike others forgotten unused changes
  obtain ⟨given, chunks, _, contents⟩ := foldl_step_chunks policy (FreshChunk.dropOverlapping fresh)
    (opening [] fresh invalidated lineage changes)
  have length : (closing policy [] fresh invalidated lineage changes).chunks.length =
      (FreshChunk.dropOverlapping fresh).length := by
    have lengths := congrArg List.length contents
    rw [List.length_map, List.length_map] at lengths
    rw [closing, chunks, opening, List.append_nil, List.length_reverse, lengths]
  exact ⟨counted.next.trans length, length⟩

theorem merge_ids_counted :
    ((merge policy [] fresh invalidated lineage changes).chunks.map Chunk.id).Perm
      ((List.range (FreshChunk.dropOverlapping fresh).length).map
        (ChunkId.format policy.file kind name)) := by
  have counted : Progress.Counted policy kind name (opening [] fresh invalidated lineage changes)
      (closing policy [] fresh invalidated lineage changes) :=
    closing_counted alike others forgotten unused changes
  have arranged : (merge policy [] fresh invalidated lineage changes).chunks.Perm
      (closing policy [] fresh invalidated lineage changes).chunks := by
    rw [merge_eq]
    exact (List.mergeSort_perm _ _).trans (List.reverse_perm _)
  refine (arranged.map _).trans ?_
  rw [counted.ids, (length_closing alike others forgotten unused changes).2]
  exact List.reverse_perm _

end oneName

theorem merge_lineage_counted {fresh : List FreshChunk}
    (alike : ∀ construct ∈ fresh, construct.draft.kind = kind ∧ construct.draft.name = name)
    (changes : List LineChange) :
    (merge policy [] fresh [] {} changes).lineage.tombstones = [] ∧
      (merge policy [] fresh [] {} changes).lineage.nextOrdinal (ChunkId.key kind name) =
        (FreshChunk.dropOverlapping fresh).length ∧
      ∀ key, key ≠ ChunkId.key kind name →
        (merge policy [] fresh [] {} changes).lineage.nextOrdinal key = 0 := by
  have counted : Progress.Counted policy kind name (opening [] fresh [] {} changes)
      (closing policy [] fresh [] {} changes) := closing_counted alike (by simp) rfl rfl changes
  have nobody : (closing policy [] fresh [] {} changes).unclaimed = [] :=
    counted.unclaimed.trans List.mergeSort_nil
  rw [merge_eq, buryUnclaimed, Progress.buried, nobody]
  exact ⟨counted.forgotten, (length_closing alike (by simp) rfl rfl changes).1, counted.elsewhere⟩

/-- A construct takes over the id of a dropped chunk if there is one for it. -/
theorem step_claims (policy : Policy) {fresh : FreshChunk} {dead : Invalidated}
    (member : dead ∈ progress.unclaimed) (sameKey : dead.chunk.key = fresh.key) :
    ∃ dead ∈ progress.unclaimed,
      (Merge.step policy progress fresh).chunks = fresh.toChunk dead.chunk.id :: progress.chunks := by
  have claimed : claim? policy.matching progress.unclaimed fresh ≠ none :=
    fun nothing => claim?_eq_none nothing dead member sameKey
  obtain ⟨⟨taken, place⟩, found⟩ := Option.ne_none_iff_exists'.mp claimed
  refine ⟨taken, List.mem_of_getElem? (claim?_eq_some found).1, ?_⟩
  rw [Merge.step, found]

/-- The only dropped chunk that is left passes its id to a construct of its key. -/
theorem step_of_single (policy : Policy) {fresh : FreshChunk} {dead : Invalidated}
    (single : progress.unclaimed = [dead]) (sameKey : dead.chunk.key = fresh.key) :
    (step policy progress fresh).unclaimed = [] ∧
      (step policy progress fresh).lineage = progress.lineage ∧
      (step policy progress fresh).allocated = progress.allocated := by
  have claimed : claim? policy.matching progress.unclaimed fresh ≠ none :=
    fun nothing => claim?_eq_none nothing dead (single ▸ List.mem_singleton_self dead) sameKey
  obtain ⟨⟨taken, place⟩, found⟩ := Option.ne_none_iff_exists'.mp claimed
  obtain ⟨inside, _⟩ := List.getElem?_eq_some_iff.mp (claim?_eq_some found).1
  rw [single, List.length_singleton, Nat.lt_one_iff] at inside
  rw [step, found]
  refine ⟨?_, rfl, rfl⟩
  simp only [single, inside, List.eraseIdx_cons_zero]

/-- A single construct takes over the id of a dropped chunk if there is one for it. -/
theorem merge_claims {fresh : List FreshChunk} {construct : FreshChunk}
    (single : FreshChunk.dropOverlapping fresh = [construct]) {invalidated : List Invalidated}
    {dead : Invalidated} (member : dead ∈ invalidated) (sameKey : dead.chunk.key = construct.key)
    (lineage : Lineage) (changes : List LineChange) : ∃ dead ∈ invalidated,
      (merge policy [] fresh invalidated lineage changes).chunks.map Chunk.id = [dead.chunk.id] := by
  have nobody : dropped [] fresh invalidated = invalidated := List.append_nil _
  have unclaimed (dead : Invalidated) :
      dead ∈ (opening [] fresh invalidated lineage changes).unclaimed ↔ dead ∈ invalidated := by
    rw [opening, nobody]
    exact List.mem_mergeSort
  obtain ⟨taken, among, chunks⟩ := step_claims policy ((unclaimed dead).mpr member) sameKey
  refine ⟨taken, (unclaimed taken).mp among, ?_⟩
  rw [merge_eq, closing, single]
  simp only [List.foldl_cons, List.foldl_nil]
  rw [chunks]
  exact congrArg (List.map Chunk.id) (List.mergeSort_singleton _)

end Merge

/-! ### Parses of the whole text -/

namespace Engine

/-- The chunks that a parse of the whole text drops are those of the version that it starts from. -/
theorem mem_of_mem_ofPrior {base : Option Version} {changes : List LineChange} {dead : Invalidated}
    (member : dead ∈ base.elim [] fun version => version.chunks.map (Invalidated.ofPrior changes)) :
    ∃ version ∈ base, dead.chunk ∈ version.chunks := by
  cases base with
  | none => cases member
  | some version =>
    obtain ⟨chunk, old, rfl⟩ := List.mem_map.mp member
    exact ⟨version, rfl, old⟩

/-- What can be noted of the chunks of a version can be noted of those that are dropped. -/
theorem noted_of_fullInput {base : Option Version} {limit : Nat}
    (noted : ∀ version ∈ base, ∀ chunk ∈ version.chunks, ∀ sum ∈ Lineage.noted chunk,
      sum.2 < limit) (fresh : List FreshChunk) (changes : List LineChange) :
    ∀ chunk ∈ Merge.kept [] fresh ++ (Merge.dropped [] fresh (base.elim [] fun version =>
        version.chunks.map (Invalidated.ofPrior changes))).map Invalidated.chunk,
      ∀ sum ∈ Lineage.noted chunk, sum.2 < limit := by
  intro chunk member
  rw [Merge.kept, Merge.dropped, List.filter_nil, List.filter_nil, List.map_nil, List.append_nil,
    List.nil_append] at member
  obtain ⟨dead, among, rfl⟩ := List.mem_map.mp member
  obtain ⟨version, known, old⟩ := mem_of_mem_ofPrior among
  exact noted version known dead.chunk old

section alike

variable (engine : Engine) (job : Job) {extraction : Extraction} {kind : Kind} {name : String}
  (fit : ∀ draft ∈ extraction.drafts, draft.span.Fits job.index.size)
  (row : extraction.drafts.Pairwise fun left right => left.span.Before right.span)
  (alike : ∀ draft ∈ extraction.drafts, draft.kind = kind ∧ draft.name = name)

include alike

theorem freshChunks_alike : ∀ fresh ∈ job.freshChunks extraction.drafts,
    fresh.draft.kind = kind ∧ fresh.draft.name = name := by
  intro fresh member
  obtain ⟨draft, among, _, _, rfl⟩ := Job.mem_freshChunks.mp member
  exact alike draft among

theorem fullMerge_alike {base : Option Version} {changes : List LineChange} {chunk : Chunk}
    (member : chunk ∈ (engine.fullMerge job base changes extraction).chunks) :
    chunk.kind = kind ∧ chunk.name = name := by
  rcases Merge.mem_merge member with survivor | ⟨construct, among, same⟩
  · cases survivor
  · obtain ⟨kinds, names⟩ := freshChunks_alike job alike construct among
    exact ⟨(congrArg Chunk.kind same).trans kinds, (congrArg Chunk.name same).trans names⟩

omit alike in
include fit row in
/-- Constructs that stand one after the other all get a chunk. -/
theorem length_constructs : (FreshChunk.dropOverlapping (job.freshChunks extraction.drafts)).length =
    extraction.drafts.length := by
  rw [Job.dropOverlapping_freshChunks fit row, ← List.length_map FreshChunk.draft,
    Job.map_draft_freshChunks fit]

include fit row in
/-- Without old ids to be had, constructs of one name are numbered from zero on. -/
theorem fullMerge_ids (base : Option Version) (changes : List LineChange)
    (others : ∀ version ∈ base, ∀ chunk ∈ version.chunks, chunk.key ≠ ChunkId.key kind name)
    (forgotten : (base.elim {} Version.lineage).tombstones = [])
    (unused : (base.elim {} Version.lineage).nextOrdinal (ChunkId.key kind name) = 0) :
    ((engine.fullMerge job base changes extraction).chunks.map Chunk.id).Perm
      ((List.range extraction.drafts.length).map (ChunkId.format job.file kind name)) := by
  rw [← length_constructs job fit row]
  refine Merge.merge_ids_counted (freshChunks_alike job alike) (fun dead member => ?_) forgotten unused
    changes
  obtain ⟨version, known, old⟩ := mem_of_mem_ofPrior member
  exact others version known dead.chunk old

include fit row in
/-- After the first parse of a file only the name of its constructs is known. -/
theorem fullMerge_lineage (changes : List LineChange) :
    (engine.fullMerge job none changes extraction).lineage.tombstones = [] ∧
      (engine.fullMerge job none changes extraction).lineage.nextOrdinal (ChunkId.key kind name) =
        extraction.drafts.length ∧
      ∀ key, key ≠ ChunkId.key kind name →
        (engine.fullMerge job none changes extraction).lineage.nextOrdinal key = 0 := by
  rw [← length_constructs job fit row]
  exact Merge.merge_lineage_counted (freshChunks_alike job alike) changes

include fit row in
/-- Such a parse can be carried out if the old ids can be noted and there is a number for each
construct. -/
theorem fullInput_fits (base : Option Version) (changes : List LineChange)
    (others : ∀ version ∈ base, ∀ chunk ∈ version.chunks, chunk.key ≠ ChunkId.key kind name)
    (forgotten : (base.elim {} Version.lineage).tombstones = [])
    (unused : (base.elim {} Version.lineage).nextOrdinal (ChunkId.key kind name) = 0)
    (noted : ∀ version ∈ base, ∀ chunk ∈ version.chunks, ∀ sum ∈ Lineage.noted chunk,
      sum.2 < ChunkId.ordinalLimit)
    (numbers : ∀ key, (base.elim {} Version.lineage).nextOrdinal key < ChunkId.ordinalLimit)
    (few : extraction.drafts.length < ChunkId.ordinalLimit) :
    (engine.fullInput job base changes extraction).overflows = false := by
  have notedHere := noted_of_fullInput noted (job.freshChunks extraction.drafts) changes
  have othersHere : ∀ dead ∈ base.elim [] fun version =>
      version.chunks.map (Invalidated.ofPrior changes), dead.chunk.key ≠ ChunkId.key kind name := by
    intro dead member
    obtain ⟨version, known, old⟩ := mem_of_mem_ofPrior member
    exact others version known dead.chunk old
  have counted : Merge.Progress.Counted (engine.policy job.file) kind name _ _ :=
    Merge.closing_counted (freshChunks_alike job alike) othersHere forgotten unused changes
  obtain ⟨next, _⟩ : (Merge.closing (engine.policy job.file) [] _ _ _ changes).lineage.nextOrdinal
      (ChunkId.key kind name) = _ ∧ _ :=
    Merge.length_closing (freshChunks_alike job alike) othersHere forgotten unused changes
  refine Merge.Input.overflows_eq_false notedHere fun key => ?_
  rw [Merge.Input.closed]
  by_cases same : key = ChunkId.key kind name
  · rw [same]
    exact Nat.lt_of_le_of_lt (Nat.le_of_eq (next.trans (length_constructs job fit row))) few
  · exact Nat.lt_of_le_of_lt (Nat.le_of_eq (counted.elsewhere key same))
      (@Merge.Input.opened_lt (engine.fullInput job base changes extraction) _ notedHere key
        (numbers key))

end alike

/-- A single construct that finds a dropped chunk for it takes over one of the old ids. -/
theorem fullMerge_claims (engine : Engine) (job : Job) {extraction : Extraction} {draft : Draft}
    {version : Version} (changes : List LineChange) (single : extraction.drafts = [draft])
    (fits : draft.span.Fits job.index.size) {chunk : Chunk} (member : chunk ∈ version.chunks)
    (sameKey : chunk.key = ChunkId.key draft.kind draft.name) :
    ∃ old ∈ version.ids,
      (engine.fullMerge job (some version) changes extraction).chunks.map Chunk.id = [old] := by
  have fit : ∀ other ∈ [draft], other.span.Fits job.index.size := by simpa using fits
  obtain ⟨construct, fresh, same⟩ := List.map_eq_singleton_iff.mp (Job.map_draft_freshChunks fit)
  have kept : FreshChunk.dropOverlapping (job.freshChunks extraction.drafts) = [construct] := by
    rw [single, Job.dropOverlapping_freshChunks fit (List.pairwise_singleton _ draft), fresh]
  have taken : ∃ dead ∈ version.chunks.map (Invalidated.ofPrior changes),
      (engine.fullMerge job (some version) changes extraction).chunks.map Chunk.id =
        [dead.chunk.id] :=
    Merge.merge_claims kept (List.mem_map_of_mem member) (by rw [FreshChunk.key, same]; exact sameKey)
      version.lineage changes
  obtain ⟨dead, among, ids⟩ := taken
  obtain ⟨old, listed, rfl⟩ := List.mem_map.mp among
  exact ⟨old.id, List.mem_map_of_mem listed, ids⟩

end Engine

end Chunking
