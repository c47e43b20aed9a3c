/-
How far numbers get. A number of a key is passed over for one of three reasons: it was
given out, or an id that looks like it was live when it was tried, or it is not above
the number that the name brings along. In the first two cases the id with that number
was given out once, under this key or another one. So the next number of a key is at
most the one that its name brings along and as many more as ids were given out, and
this is a bound for all sums of a merge.
-/

import Chunking.Proofs.CarriedNumbers
import Chunking.Proofs.Sums
import Mathlib.Data.List.Nodup
import Mathlib.Data.List.Perm.Subperm

namespace Chunking

namespace Lineage

/-! ### Numbers that were spent -/

/-- The numbers below the next one of a kind and name have their ids among those that were given
out, except for the numbers up to the one that the name brings along. -/
def Spent (lineage : Lineage) (file : String) (used : List String) : Prop :=
  ∀ kind name, ∀ ordinal < lineage.nextOrdinal (ChunkId.key kind name),
    ordinal = 0 ∨ ChunkId.carried name < ordinal → ChunkId.format file kind name ordinal ∈ used

variable {lineage : Lineage} {file : String} {used : List String}

theorem spent_empty (file : String) : ({} : Lineage).Spent file [] :=
  fun _ _ _ below => absurd below (Nat.not_lt_zero _)

theorem Spent.of_ordinals_eq {other : Lineage} (spent : lineage.Spent file used)
    (same : other.ordinals = lineage.ordinals) : other.Spent file used := by
  intro kind name
  rw [nextOrdinal, same]
  exact spent kind name

/-- The next number of a key is at most the one that its name brings along and as many more as ids
were given out. -/
theorem Spent.nextOrdinal_le (spent : lineage.Spent file used) (kind : Kind) (name : String) :
    lineage.nextOrdinal (ChunkId.key kind name) ≤ ChunkId.carried name + used.length := by
  let number (count : Nat) : Nat := if count = 0 then 0 else ChunkId.carried name + count
  let ids := (List.range (lineage.nextOrdinal (ChunkId.key kind name) - ChunkId.carried name)).map
    fun count => ChunkId.format file kind name (number count)
  have distinct : ids.Nodup := by
    refine List.Nodup.map (fun first second same => ?_) List.nodup_range
    have numbers : number first = number second := ChunkId.format_ordinal_inj same
    simp only [number] at numbers
    split at numbers <;> split at numbers <;> omega
  have among : ids ⊆ used := by
    intro id member
    obtain ⟨count, below, rfl⟩ := List.mem_map.mp member
    rw [List.mem_range] at below
    refine spent kind name (number count) ?_ ?_ <;> simp only [number] <;> split <;> omega
  have few := (distinct.subperm among).length_le
  rw [List.length_map, List.length_range] at few
  omega

/-- Noting an id that was issued passes over no number but those up to the one of the name. -/
theorem Spent.observe (spent : lineage.Spent file used) {chunk : Chunk}
    (issued : lineage.Issued file chunk.bearer) : (lineage.observe chunk).Spent file used := by
  obtain ⟨ordinal, below, written⟩ := issued
  intro kind name number passed free
  refine spent kind name number ?_ free
  by_contra notBelow
  have reached := Nat.le_of_not_lt notBelow
  refine Nat.not_le_of_lt passed ((lineage.raised_observe chunk _ _).mpr ⟨reached, ?_⟩)
  intro sum member sameKey
  obtain ⟨read, reads, rfl⟩ := List.mem_map.mp member
  have sameKey : ChunkId.key chunk.kind chunk.name = ChunkId.key kind name := sameKey
  have below : ordinal < lineage.nextOrdinal (ChunkId.key kind name) := sameKey ▸ below
  have written : chunk.id = ChunkId.format file chunk.kind chunk.name ordinal := written
  rw [Option.mem_toList, written] at reads
  rcases ChunkId.ordinal?_format_eq_some reads with same | same
  · simp only [same]
    omega
  · rw [ChunkId.carried_of_key_eq sameKey] at same
    simp only [same]
    omega

theorem isTaken_of_lt_firstFree (isTaken : Nat → Bool) {tries start ordinal : Nat}
    (reached : start ≤ ordinal) (below : ordinal < firstFree isTaken tries start) :
    isTaken ordinal = true := by
  induction tries generalizing start with
  | zero => exact absurd below (Nat.not_lt_of_le reached)
  | succ tries inductionHypothesis =>
    unfold firstFree at below
    split at below
    next taken =>
      rcases Nat.eq_or_lt_of_le reached with rfl | later
      · exact taken
      · exact inductionHypothesis later below
    next => exact absurd below (Nat.not_lt_of_le reached)

/-- Giving out an id passes over no number but those of live ids. -/
theorem Spent.allocate (spent : lineage.Spent file used) (kind : Kind) (name : String)
    {live : List String} (known : live ⊆ used) :
    (lineage.allocate file kind name live).2.Spent file
      ((lineage.allocate file kind name live).1 :: used) := by
  intro kind' name' ordinal passed free
  by_cases before : ordinal < lineage.nextOrdinal (ChunkId.key kind' name')
  · exact List.mem_cons_of_mem _ (spent kind' name' ordinal before free)
  · by_cases sameKey : ChunkId.key kind' name' = ChunkId.key kind name
    · rw [ChunkId.format_of_key_eq sameKey]
      rw [sameKey, Lineage.allocate, nextOrdinal_insert_self] at passed
      rw [sameKey] at before
      rcases Nat.eq_or_lt_of_le (Nat.le_of_lt_succ passed) with same | below
      · rw [same]
        exact List.mem_cons_self
      · have taken := isTaken_of_lt_firstFree _ (Nat.le_of_not_lt before) below
        exact List.mem_cons_of_mem _ (known (List.contains_iff_mem.mp taken))
    · rw [Lineage.allocate, nextOrdinal, Dictionary.get?_insert_of_ne _ sameKey] at passed
      exact absurd passed before

/-! ### Bearers -/

/-- The lineage has spent its numbers on ids that were given out, and the bearers have such ids. -/
structure Records (lineage : Lineage) (file : String) (named : Kind → String → Prop)
    (used : List String) (bearers : List Bearer) : Prop where
  spent : lineage.Spent file used
  named : ∀ bearer ∈ bearers, named bearer.kind bearer.name
  issued : ∀ bearer ∈ bearers, lineage.Issued file bearer
  used : ∀ bearer ∈ bearers, bearer.id ∈ used

namespace Records

variable {named : Kind → String → Prop} {bearers others : List Bearer}

theorem empty (file : String) (named : Kind → String → Prop) :
    ({} : Lineage).Records file named [] [] :=
  ⟨spent_empty file, by simp, by simp, by simp⟩

theorem subset (records : lineage.Records file named used bearers) (fewer : others ⊆ bearers) :
    lineage.Records file named used others :=
  ⟨records.spent, fun bearer member => records.named bearer (fewer member),
    fun bearer member => records.issued bearer (fewer member),
    fun bearer member => records.used bearer (fewer member)⟩

theorem of_ordinals_eq {other : Lineage} (records : lineage.Records file named used bearers)
    (same : other.ordinals = lineage.ordinals) : other.Records file named used bearers :=
  ⟨records.spent.of_ordinals_eq same, records.named,
    fun bearer member => (records.issued bearer member).mono (covers_of_ordinals_eq same),
    records.used⟩

theorem used_mono {more : List String} (records : lineage.Records file named used bearers)
    (grown : used ⊆ more) : lineage.Records file named more bearers :=
  ⟨fun kind name ordinal below free => grown (records.spent kind name ordinal below free),
    records.named, records.issued, fun bearer member => grown (records.used bearer member)⟩

theorem cons {bearer : Bearer} (records : lineage.Records file named used bearers)
    (proper : named bearer.kind bearer.name) (issued : lineage.Issued file bearer)
    (listed : bearer.id ∈ used) : lineage.Records file named used (bearer :: bearers) :=
  ⟨records.spent, List.forall_mem_cons.mpr ⟨proper, records.named⟩,
    List.forall_mem_cons.mpr ⟨issued, records.issued⟩,
    List.forall_mem_cons.mpr ⟨listed, records.used⟩⟩

/-- An id may pass to another bearer with the same key. -/
theorem pass {first second : Bearer} (records : lineage.Records file named used bearers)
    (member : first ∈ bearers) (sameId : first.id = second.id) (sameKey : first.key = second.key)
    (proper : named second.kind second.name) :
    lineage.Records file named used (second :: bearers) :=
  records.cons proper ((records.issued first member).of_key_eq sameId sameKey)
    (sameId ▸ records.used first member)

theorem observe (records : lineage.Records file named used bearers) {chunk : Chunk}
    (member : chunk.bearer ∈ bearers) : (lineage.observe chunk).Records file named used bearers :=
  ⟨records.spent.observe (records.issued _ member), records.named,
    fun bearer among => (records.issued bearer among).mono (lineage.covers_observe chunk),
    records.used⟩

theorem foldl_observe {chunks : List Chunk} (records : lineage.Records file named used bearers)
    (members : chunks.map Chunk.bearer ⊆ bearers) :
    (chunks.foldl Lineage.observe lineage).Records file named used bearers := by
  induction chunks generalizing lineage with
  | nil => exact records
  | cons chunk rest inductionHypothesis =>
    obtain ⟨first, later⟩ := List.cons_subset.mp members
    exact inductionHypothesis (records.observe first) later

/-- Burying a chunk turns its bearer into a remembered one. -/
theorem foldl_bury {dead : List Invalidated} (records : lineage.Records file named used bearers)
    (members : dead.map (·.chunk.bearer) ⊆ bearers)
    (remembered : lineage.tombstones.map Tombstone.bearer ⊆ bearers) :
    (dead.foldl (fun lineage one => lineage.bury one.chunk one.mappedLine) lineage).Records file
        named used bearers ∧
      (dead.foldl (fun lineage one => lineage.bury one.chunk one.mappedLine)
        lineage).tombstones.map Tombstone.bearer ⊆ bearers := by
  induction dead generalizing lineage with
  | nil => exact ⟨records, remembered⟩
  | cons one rest inductionHypothesis =>
    obtain ⟨first, later⟩ := List.cons_subset.mp members
    refine inductionHypothesis ((records.observe first).of_ordinals_eq rfl) later ?_
    have fewer := ((lineage.tombstones_bury one.chunk one.mappedLine).1.map Tombstone.bearer).subset
    rw [List.map_append] at fewer
    exact List.Subset.trans fewer (List.append_subset.mpr
      ⟨remembered, List.cons_subset.mpr ⟨first, List.nil_subset _⟩⟩)

/-- An id that is given out has a bearer, and takes its place among those that were. -/
theorem allocate (records : lineage.Records file named used bearers) {kind : Kind} {name : String}
    (proper : named kind name) {live : List String} (known : live ⊆ used) :
    (lineage.allocate file kind name live).2.Records file named
      ((lineage.allocate file kind name live).1 :: used)
      (⟨(lineage.allocate file kind name live).1, kind, name⟩ :: bearers) := by
  have covers := (lineage.raised_allocate file kind name live).covers
  have grown : (lineage.allocate file kind name live).2.Records file named
      ((lineage.allocate file kind name live).1 :: used) bearers :=
    ⟨records.spent.allocate kind name known, records.named,
      fun bearer member => (records.issued bearer member).mono covers,
      fun bearer member => List.mem_cons_of_mem _ (records.used bearer member)⟩
  refine grown.cons proper ⟨_, ?_, rfl⟩ List.mem_cons_self
  rw [Lineage.allocate, Bearer.key, nextOrdinal_insert_self]
  exact Nat.lt_succ_self _

end Records

end Lineage

/-! ### Merges -/

namespace Merge

variable {policy : Policy} {named : Kind → String → Prop} {used : List String} {kept : List Chunk}

/-- What holds between two constructs: all bearers have ids that were given out, before the merge or
in it, and so do all live chunks. -/
structure Progress.Recorded (policy : Policy) (named : Kind → String → Prop) (used : List String)
    (kept : List Chunk) (progress : Progress) : Prop where
  records : progress.lineage.Records policy.file named (progress.allocated ++ used)
    (progress.bearers kept)
  live : progress.live ⊆ progress.allocated ++ used

theorem Progress.Recorded.step {progress : Progress}
    (recorded : progress.Recorded policy named used kept) {fresh : FreshChunk}
    (proper : named fresh.draft.kind fresh.draft.name) :
    (Merge.step policy progress fresh).Recorded policy named used kept := by
  obtain ⟨records, live⟩ := recorded
  rcases step_cases policy progress fresh with ⟨dead, place, listed, sameKey, stepped⟩ |
    ⟨_, tombstone, place, listed, bearer, stepped⟩ |
    ⟨before, id, after, ordinals, tombstones, given, stepped⟩
  · have member : dead.chunk.bearer ∈ progress.bearers kept :=
      List.mem_append_right _ (List.mem_append_left _
        (List.mem_map.mpr ⟨dead, List.mem_of_getElem? listed, rfl⟩))
    have passed : progress.lineage.Records policy.file named (progress.allocated ++ used)
        ((fresh.toChunk dead.chunk.id).bearer :: progress.bearers kept) :=
      records.pass member rfl sameKey proper
    have fewer := ((List.eraseIdx_sublist progress.unclaimed place).map
      (·.chunk.bearer)).append_right (progress.lineage.tombstones.map Tombstone.bearer)
    rw [stepped]
    exact ⟨passed.subset ((fewer.append_left _).cons_cons _).subset,
      List.cons_subset.mpr ⟨records.used _ member, live⟩⟩
  · have member : (fresh.toChunk tombstone.id).bearer ∈ progress.bearers kept :=
      List.mem_append_right _ (List.mem_append_right _
        (List.mem_map.mpr ⟨tombstone, List.mem_of_getElem? listed, bearer⟩))
    have fewer := ((List.eraseIdx_sublist progress.lineage.tombstones place).map
      Tombstone.bearer).append_left (progress.unclaimed.map (·.chunk.bearer))
    rw [stepped]
    refine ⟨(records.subset ?_).of_ordinals_eq rfl,
      List.cons_subset.mpr ⟨records.used _ member, live⟩⟩
    exact List.cons_subset.mpr ⟨member, (fewer.append_left _).subset⟩
  · have grown := (records.of_ordinals_eq ordinals).allocate proper live
    rw [given] at grown
    rw [stepped]
    cases given
    refine ⟨grown.subset ?_, List.cons_subset_cons _ live⟩
    exact ((((tombstones.map Tombstone.bearer).append_left _).append_left _).cons_cons _).subset

theorem Progress.Recorded.foldl {progress : Progress}
    (recorded : progress.Recorded policy named used kept) {constructs : List FreshChunk}
    (proper : ∀ fresh ∈ constructs, named fresh.draft.kind fresh.draft.name) :
    (constructs.foldl (Merge.step policy) progress).Recorded policy named used kept := by
  induction constructs generalizing progress with
  | nil => exact recorded
  | cons fresh rest inductionHypothesis =>
    rw [List.forall_mem_cons] at proper
    exact inductionHypothesis (recorded.step proper.1) proper.2

theorem key_of_mem_noted {chunk : Chunk} {sum : String × Nat} (member : sum ∈ Lineage.noted chunk) :
    sum.1 = chunk.key := by
  obtain ⟨_, _, rfl⟩ := List.mem_map.mp member
  rfl

theorem key_of_mem_foldSums {constructs : List FreshChunk} {progress : Progress}
    {sum : String × Nat} (member : sum ∈ foldSums policy constructs progress) :
    ∃ fresh ∈ constructs, sum.1 = fresh.key := by
  induction constructs generalizing progress with
  | nil => cases member
  | cons fresh rest inductionHypothesis =>
    rcases List.mem_append.mp member with here | later
    · refine ⟨fresh, List.mem_cons_self, ?_⟩
      unfold stepSums at here
      split at here
      · cases here
      · split at here
        · cases here
        · obtain ⟨_, _, rfl⟩ := List.mem_map.mp here
          rfl
    · obtain ⟨other, among, same⟩ := inductionHypothesis later
      exact ⟨other, List.mem_cons_of_mem _ among, same⟩

namespace Input

/-- The old chunks and the remembered ids have ids that were given out, and all names are as they
should be. -/
structure Recorded (named : Kind → String → Prop) (used : List String) (input : Input) : Prop where
  records : input.lineage.Records input.policy.file named used
    ((input.survivors ++ input.invalidated.map Invalidated.chunk).map Chunk.bearer
      ++ input.lineage.tombstones.map Tombstone.bearer)
  fresh : ∀ construct ∈ input.fresh, named construct.draft.kind construct.draft.name

namespace Recorded

variable {input : Input} (recorded : input.Recorded named used)

include recorded

theorem opened : input.opened.Recorded input.policy named used
    (Merge.kept input.survivors input.fresh) := by
  have regrouped :=
    (kept_dropped_perm input.survivors input.fresh input.invalidated).map Chunk.bearer
  have sorted : (input.opened.unclaimed.map (·.chunk.bearer)).Perm
      ((dropped input.survivors input.fresh input.invalidated).map (·.chunk.bearer)) :=
    (List.mergeSort_perm _ _).map _
  have remembered : input.opened.lineage.tombstones.map Tombstone.bearer =
      input.lineage.tombstones.map Tombstone.bearer := by
    rw [Input.opened, opening, Lineage.tombstones_foldl_observe, Lineage.bearers_shift]
  have shifted := recorded.records.of_ordinals_eq
    (rfl : (input.lineage.shift input.changes).ordinals = input.lineage.ordinals)
  have observed : input.opened.lineage.Records input.policy.file named used _ :=
    shifted.foldl_observe (List.Subset.trans regrouped.subset (List.subset_append_left _ _))
  rw [List.map_append, List.map_map] at regrouped
  have everyone : input.opened.bearers (Merge.kept input.survivors input.fresh) ⊆
      (input.survivors ++ input.invalidated.map Invalidated.chunk).map Chunk.bearer
        ++ input.lineage.tombstones.map Tombstone.bearer := by
    rw [Progress.bearers, remembered, ← List.append_assoc]
    exact (((sorted.append_left _).trans regrouped).append_right _).subset
  refine ⟨observed.subset everyone, fun id member => ?_⟩
  obtain ⟨chunk, among, rfl⟩ := List.mem_map.mp member
  exact observed.used chunk.bearer (everyone (List.mem_append_left _ (List.mem_map_of_mem among)))

theorem closed : input.closed.Recorded input.policy named used
    (Merge.kept input.survivors input.fresh) :=
  recorded.opened.foldl fun construct member =>
    recorded.fresh construct (FreshChunk.mem_of_mem_dropOverlapping member)

/-- The record is taken over by what the merge makes of it, with the ids that it has given out. -/
theorem outcome : input.outcome.lineage.Records input.policy.file named
    (input.outcome.allocated ++ used) (input.outcome.chunks.map Chunk.bearer
      ++ input.outcome.lineage.tombstones.map Tombstone.bearer) := by
  have buried : input.closed.buried.map (·.chunk.bearer) ⊆
      input.closed.bearers (Merge.kept input.survivors input.fresh) :=
    List.Subset.trans (List.filter_sublist.map _).subset
      (List.Subset.trans (List.subset_append_left _ _) (List.subset_append_right _ _))
  obtain ⟨records, remembered⟩ := recorded.closed.records.foldl_bury buried
    (List.Subset.trans (List.subset_append_right _ _) (List.subset_append_right _ _))
  have chunks : input.outcome.chunks.Perm
      (input.closed.chunks ++ Merge.kept input.survivors input.fresh) :=
    (List.mergeSort_perm _ _).trans
      ((List.perm_append_comm.trans ((List.reverse_perm _).append_right _)))
  refine (records.subset (List.append_subset.mpr ⟨?_, remembered⟩)).used_mono ?_
  · exact List.Subset.trans (chunks.map _).subset (List.subset_append_left _ _)
  · exact ((List.reverse_perm input.closed.allocated).symm.append_right used).subset

/-- Every sum is formed for one of the names. -/
theorem key_of_mem_sums {sum : String × Nat} (member : sum ∈ input.sums) :
    ∃ kind name, named kind name ∧ sum.1 = ChunkId.key kind name := by
  rcases List.mem_append.mp member with earlier | last
  · rcases List.mem_append.mp earlier with first | middle
    · obtain ⟨chunk, among, formed⟩ := List.mem_flatMap.mp first
      have listed := (kept_dropped_perm input.survivors input.fresh input.invalidated).subset among
      exact ⟨chunk.kind, chunk.name, recorded.records.named chunk.bearer
        (List.mem_append_left _ (List.mem_map_of_mem listed)), key_of_mem_noted formed⟩
    · obtain ⟨construct, among, same⟩ := key_of_mem_foldSums middle
      exact ⟨_, _, recorded.fresh construct (FreshChunk.mem_of_mem_dropOverlapping among), same⟩
  · obtain ⟨dead, among, formed⟩ := List.mem_flatMap.mp last
    have listed : dead.chunk.bearer ∈ input.closed.unclaimed.map (·.chunk.bearer) :=
      List.mem_map.mpr ⟨dead, List.mem_of_mem_filter among, rfl⟩
    exact ⟨dead.chunk.kind, dead.chunk.name, recorded.closed.records.named dead.chunk.bearer
      (List.mem_append_right _ (List.mem_append_left _ listed)), key_of_mem_noted formed⟩

/-- No sum is further than the ids that were given out from the number that a name brings along. -/
theorem sum_le {sum : String × Nat} (member : sum ∈ input.sums) : ∃ kind name, named kind name ∧
    sum.2 ≤ ChunkId.carried name + (input.outcome.allocated ++ used).length := by
  obtain ⟨kind, name, proper, same⟩ := recorded.key_of_mem_sums member
  refine ⟨kind, name, proper, ?_⟩
  have bound := input.raised_outcome.le member
  rw [same] at bound
  exact Nat.le_trans bound (recorded.outcome.spent.nextOrdinal_le kind name)

end Recorded

end Input

end Merge

end Chunking
