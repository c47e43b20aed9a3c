/-
The ids of a merge. At every moment each id belongs to exactly one of four groups:
chunks made so far, survivors, dropped chunks whose ids are still to be had, and
remembered ids. A step moves an id from one group to another or adds a new one, so
no id is ever in two places, and in the end none is shared by two chunks or by a
chunk and a remembered id. New ids are new even for the lineage that the merge
started from, and unless ids may be brought back there are no others but those of
the old chunks and new ones.
-/

import Chunking.Proofs.Lineage
import Chunking.Proofs.Merging

namespace Chunking

namespace Merge

/-! ### Where an id comes from -/

/-- The dropped chunk that a construct takes its id from has the key of the construct. -/
theorem claim?_eq_some {matching : IdMatching} {unclaimed : List Invalidated} {fresh : FreshChunk}
    {dead : Invalidated} {place : Nat} (claimed : claim? matching unclaimed fresh = some (dead, place)) :
    unclaimed[place]? = some dead ∧ dead.chunk.key = fresh.key := by
  have among : (dead, place) ∈ unclaimed.zipIdx.filter fun candidate =>
      candidate.1.chunk.key == fresh.key := by
    unfold claim? at claimed
    cases matching with
    | strictNameType => exact List.mem_of_head? claimed
    | nameTypeProximity => exact firstLeast?_mem claimed
  obtain ⟨listed, sameKey⟩ := List.mem_filter.mp among
  exact ⟨List.mem_zipIdx_iff_getElem?.mp listed, by simpa using sameKey⟩

/-- A dropped chunk of the key of a construct is among those that it may take its id from. -/
theorem mem_candidates {unclaimed : List Invalidated} {fresh : FreshChunk} {dead : Invalidated}
    (member : dead ∈ unclaimed) (sameKey : dead.chunk.key = fresh.key) :
    ∃ place, (dead, place) ∈ unclaimed.zipIdx.filter fun candidate =>
      candidate.1.chunk.key == fresh.key := by
  obtain ⟨place, inside, rfl⟩ := List.getElem_of_mem member
  exact ⟨place, List.mem_filter.mpr
    ⟨List.mem_zipIdx_iff_getElem?.mpr (List.getElem?_eq_getElem inside), by simpa using sameKey⟩⟩

/-- Where nothing can be taken over, no dropped chunk of the key is left. -/
theorem claim?_eq_none {matching : IdMatching} {unclaimed : List Invalidated} {fresh : FreshChunk}
    (nothing : claim? matching unclaimed fresh = none) :
    ∀ dead ∈ unclaimed, dead.chunk.key ≠ fresh.key := by
  intro dead member sameKey
  obtain ⟨place, candidate⟩ := mem_candidates member sameKey
  have someone := List.ne_nil_of_mem candidate
  unfold claim? at nothing
  cases matching with
  | strictNameType => exact someone (List.head?_eq_none_iff.mp nothing)
  | nameTypeProximity =>
    exact Option.ne_none_iff_isSome.mpr (firstLeast?_isSome _ someone) nothing

/-- What is brought back in a merge is brought back by the lineage, and only where the policy
allows it. -/
theorem revive_cases {policy : Policy} {progress : Progress} {fresh : FreshChunk}
    {revived : Option String} {after : Lineage}
    (result : revive policy progress fresh = (revived, after)) :
    (revived = none ∧ after.ordinals = progress.lineage.ordinals ∧
        after.tombstones.Sublist progress.lineage.tombstones) ∨
      (policy.matching = .nameTypeProximity ∧ ∃ tombstone place,
        progress.lineage.tombstones[place]? = some tombstone ∧
        revived = some tombstone.id ∧
        tombstone.bearer = ⟨tombstone.id, fresh.draft.kind, fresh.draft.name⟩ ∧
        after = { progress.lineage with
          tombstones := progress.lineage.tombstones.eraseIdx place }) := by
  unfold revive at result
  split at result
  next =>
    obtain ⟨rfl, rfl⟩ := Prod.mk.inj result
    exact Or.inl ⟨rfl, rfl, .refl _⟩
  next allowed =>
    cases found : progress.lineage.revive fresh.draft.kind fresh.draft.name fresh.span
        policy.proximityLines with
    | mk back left =>
      rw [found] at result
      obtain ⟨rfl, rfl⟩ := Prod.mk.inj result
      cases back with
      | none =>
        rw [Lineage.revive_eq_none found]
        exact Or.inl ⟨rfl, rfl, .refl _⟩
      | some id =>
        obtain ⟨tombstone, place, listed, bearer, rfl⟩ := Lineage.revive_eq_some found
        obtain rfl : tombstone.id = id := congrArg Bearer.id bearer
        rw [Option.filter_some]
        split
        · exact Or.inr ⟨allowed, tombstone, place, listed, rfl, bearer, rfl⟩
        · exact Or.inl ⟨rfl, rfl, List.eraseIdx_sublist _ _⟩

/-- The three ways in which a construct gets its id: from a dropped chunk, from a remembered id, or
as a new one. -/
theorem step_cases (policy : Policy) (progress : Progress) (fresh : FreshChunk) :
    (∃ dead place, progress.unclaimed[place]? = some dead ∧ dead.chunk.key = fresh.key ∧
      step policy progress fresh = { progress with
        unclaimed := progress.unclaimed.eraseIdx place
        live := dead.chunk.id :: progress.live
        chunks := fresh.toChunk dead.chunk.id :: progress.chunks
        reused := dead.chunk.id :: progress.reused }) ∨
    (policy.matching = .nameTypeProximity ∧ ∃ tombstone place,
      progress.lineage.tombstones[place]? = some tombstone ∧
      tombstone.bearer = ⟨tombstone.id, fresh.draft.kind, fresh.draft.name⟩ ∧
      step policy progress fresh = { progress with
        lineage := { progress.lineage with
          tombstones := progress.lineage.tombstones.eraseIdx place }
        live := tombstone.id :: progress.live
        chunks := fresh.toChunk tombstone.id :: progress.chunks
        reused := tombstone.id :: progress.reused }) ∨
    (∃ (before : Lineage) (id : String) (after : Lineage),
      before.ordinals = progress.lineage.ordinals ∧
      before.tombstones.Sublist progress.lineage.tombstones ∧
      before.allocate policy.file fresh.draft.kind fresh.draft.name progress.live = (id, after) ∧
      step policy progress fresh = { progress with
        lineage := after
        live := id :: progress.live
        chunks := fresh.toChunk id :: progress.chunks
        allocated := id :: progress.allocated }) := by
  unfold step
  split
  next dead place claimed =>
    obtain ⟨listed, sameKey⟩ := claim?_eq_some claimed
    exact Or.inl ⟨dead, place, listed, sameKey, rfl⟩
  next =>
    refine Or.inr ?_
    split
    next id lineage revived =>
      rcases revive_cases revived with
        ⟨nothing, _⟩ | ⟨allowed, tombstone, place, listed, same, bearer, rfl⟩
      · cases nothing
      · cases same
        exact Or.inl ⟨allowed, tombstone, place, listed, bearer, rfl⟩
    next lineage revived =>
      rcases revive_cases revived with ⟨_, ordinals, tombstones⟩ | ⟨_, _, _, _, same, _⟩
      · exact Or.inr ⟨lineage, _, _, ordinals, tombstones, rfl, rfl⟩
      · cases same

/-! ### One id, one place -/

/-- The bearers of all four groups. -/
def Progress.bearers (kept : List Chunk) (progress : Progress) : List Bearer :=
  (progress.chunks ++ kept).map Chunk.bearer
    ++ (progress.unclaimed.map (·.chunk.bearer)
      ++ progress.lineage.tombstones.map Tombstone.bearer)

/-- What holds between two constructs of a merge that started from the lineage `base` and from
chunks with the ids `old`. -/
structure Progress.Sound (policy : Policy) (named : Kind → String → Prop) (base : Lineage)
    (old : List String) (kept : List Chunk) (progress : Progress) : Prop where
  vouches : progress.lineage.Vouches policy.file named (progress.bearers kept)
  live : progress.live = (progress.chunks ++ kept).map Chunk.id
  few : progress.lineage.tombstones.length ≤ Lineage.tombstoneLimit
  covers : progress.lineage.Covers base
  /-- What counts as given out was not known at the start. -/
  unknown : ∀ id ∈ progress.allocated, ¬ base.Knows policy.file named id
  unclaimedOld : ∀ dead ∈ progress.unclaimed, dead.chunk.id ∈ old
  /-- Where nothing is brought back, every id is an old one or unknown at the start. -/
  strict : policy.matching = .strictNameType →
    ∀ chunk ∈ progress.chunks, chunk.id ∈ old ∨ ¬ base.Knows policy.file named chunk.id

theorem covers_step (policy : Policy) (progress : Progress) (fresh : FreshChunk) :
    (step policy progress fresh).lineage.Covers progress.lineage := by
  rcases step_cases policy progress fresh with ⟨_, _, _, _, stepped⟩ |
    ⟨_, _, _, _, _, stepped⟩ | ⟨before, id, after, ordinals, _, given, stepped⟩
  · rw [stepped]
    exact .refl _
  · rw [stepped]
    exact Lineage.covers_of_ordinals_eq rfl
  · have covers := before.covers_allocate policy.file fresh.draft.kind fresh.draft.name progress.live
    rw [given] at covers
    rw [stepped]
    exact covers.trans (Lineage.covers_of_ordinals_eq ordinals)

theorem covers_foldl_step (policy : Policy) (constructs : List FreshChunk) (progress : Progress) :
    (constructs.foldl (step policy) progress).lineage.Covers progress.lineage := by
  induction constructs generalizing progress with
  | nil => exact .refl _
  | cons construct rest inductionHypothesis =>
    exact (inductionHypothesis (step policy progress construct)).trans
      (covers_step policy progress construct)

namespace Progress.Sound

variable {policy : Policy} {named : Kind → String → Prop} {base : Lineage} {old : List String}
  {kept : List Chunk} {progress : Progress} {fresh : FreshChunk}

/-- Taking over the id of a dropped chunk moves it from the third group to the first. -/
theorem claim (sound : progress.Sound policy named base old kept)
    (proper : named fresh.draft.kind fresh.draft.name) {dead : Invalidated} {place : Nat}
    (listed : progress.unclaimed[place]? = some dead) (sameKey : dead.chunk.key = fresh.key) :
    Progress.Sound policy named base old kept { progress with
      unclaimed := progress.unclaimed.eraseIdx place
      live := dead.chunk.id :: progress.live
      chunks := fresh.toChunk dead.chunk.id :: progress.chunks
      reused := dead.chunk.id :: progress.reused } := by
  have member : dead ∈ progress.unclaimed := List.mem_of_getElem? listed
  obtain ⟨bound, atPlace⟩ := List.getElem?_eq_some_iff.mp listed
  refine ⟨?_, ?_, sound.few, sound.covers, sound.unknown, ?_, ?_⟩
  · have regrouped : (progress.bearers kept).Perm (dead.chunk.bearer
        :: ((progress.chunks ++ kept).map Chunk.bearer
          ++ ((progress.unclaimed.eraseIdx place).map (·.chunk.bearer)
            ++ progress.lineage.tombstones.map Tombstone.bearer))) := by
      have taken := List.getElem_cons_eraseIdx_perm bound
      rw [atPlace] at taken
      refine .trans (.append_left _ (.append_right _ (taken.symm.map (·.chunk.bearer)))) ?_
      rw [List.map_cons, List.cons_append]
      exact List.perm_middle
    exact (sound.vouches.perm regrouped).pass rfl sameKey proper
  · simp only [List.cons_append, List.map_cons, sound.live]
    rfl
  · exact fun other among => sound.unclaimedOld other (List.mem_of_mem_eraseIdx among)
  · intro strict chunk among
    rcases List.mem_cons.mp among with rfl | earlier
    · exact Or.inl (sound.unclaimedOld dead member)
    · exact sound.strict strict chunk earlier

/-- Bringing back a remembered id moves it from the fourth group to the first. -/
theorem revive (sound : progress.Sound policy named base old kept)
    (allowed : policy.matching = .nameTypeProximity) {tombstone : Tombstone} {place : Nat}
    (listed : progress.lineage.tombstones[place]? = some tombstone)
    (bearer : tombstone.bearer = ⟨tombstone.id, fresh.draft.kind, fresh.draft.name⟩) :
    Progress.Sound policy named base old kept { progress with
      lineage := { progress.lineage with
        tombstones := progress.lineage.tombstones.eraseIdx place }
      live := tombstone.id :: progress.live
      chunks := fresh.toChunk tombstone.id :: progress.chunks
      reused := tombstone.id :: progress.reused } := by
  obtain ⟨bound, atPlace⟩ := List.getElem?_eq_some_iff.mp listed
  have fewer := List.eraseIdx_sublist progress.lineage.tombstones place
  refine ⟨?_, ?_, Nat.le_trans fewer.length_le sound.few, sound.covers, sound.unknown,
    sound.unclaimedOld, fun strict => ?_⟩
  · have regrouped : (progress.bearers kept).Perm (tombstone.bearer
        :: ((progress.chunks ++ kept).map Chunk.bearer
          ++ (progress.unclaimed.map (·.chunk.bearer)
            ++ (progress.lineage.tombstones.eraseIdx place).map Tombstone.bearer))) := by
      have taken := List.getElem_cons_eraseIdx_perm bound
      rw [atPlace] at taken
      refine .trans (.append_left _ (.append_left _ (taken.symm.map Tombstone.bearer))) ?_
      rw [List.map_cons]
      exact (List.perm_middle.append_left _).trans List.perm_middle
    rw [bearer] at regrouped
    exact (sound.vouches.perm regrouped).mono (Lineage.covers_of_ordinals_eq rfl)
  · simp only [List.cons_append, List.map_cons, sound.live]
    rfl
  · rw [allowed] at strict
    cases strict

/-- A new id joins the first group. Remembered ids may be forgotten before. -/
theorem give {fits : Nat → Prop} (readable : ChunkId.ReadableWithin fits named)
    (sound : progress.Sound policy named base old kept)
    (proper : named fresh.draft.kind fresh.draft.name) {before after : Lineage} {id : String}
    (ordinals : before.ordinals = progress.lineage.ordinals)
    (tombstones : before.tombstones.Sublist progress.lineage.tombstones)
    (given : before.allocate policy.file fresh.draft.kind fresh.draft.name progress.live =
      (id, after)) (within : after.Within fits) :
    Progress.Sound policy named base old kept { progress with
      lineage := after
      live := id :: progress.live
      chunks := fresh.toChunk id :: progress.chunks
      allocated := id :: progress.allocated } := by
  have covers : before.Covers progress.lineage := Lineage.covers_of_ordinals_eq ordinals
  have vouches : before.Vouches policy.file named ((progress.chunks ++ kept).map Chunk.bearer
      ++ (progress.unclaimed.map (·.chunk.bearer) ++ before.tombstones.map Tombstone.bearer)) :=
    (sound.vouches.mono covers).sublist
      (.append_left (.append_left (tombstones.map _) _) _)
  have liveKnown : ∀ live ∈ progress.live, before.Knows policy.file named live := by
    intro live member
    refine vouches.knows ?_
    rw [sound.live] at member
    rw [List.map_append, List.mem_append, List.map_map]
    exact Or.inl member
  have usedUp := before.nextOrdinal_lt_allocate policy.file fresh.draft.kind fresh.draft.name
    progress.live
  have grown := before.covers_allocate policy.file fresh.draft.kind fresh.draft.name progress.live
  rw [given] at usedUp grown
  have nextFits := within _ _ usedUp
  have beforeWithin := within.of_covers grown
  rw [Lineage.allocate_eq readable proper beforeWithin nextFits liveKnown] at given
  obtain ⟨rfl, rfl⟩ := Prod.mk.inj given
  have unknown : ¬ base.Knows policy.file named (ChunkId.format policy.file fresh.draft.kind
      fresh.draft.name (before.nextOrdinal (ChunkId.key fresh.draft.kind fresh.draft.name))) :=
    fun known => Lineage.not_knows_next readable proper beforeWithin nextFits
      (known.mono (covers.trans sound.covers))
  refine ⟨vouches.give readable proper beforeWithin nextFits, ?_,
    Nat.le_trans tombstones.length_le sound.few,
    (before.covers_advance _).trans (covers.trans sound.covers), ?_, sound.unclaimedOld, ?_⟩
  · simp only [List.cons_append, List.map_cons, sound.live]
    rfl
  · intro other among
    rcases List.mem_cons.mp among with rfl | earlier
    · exact unknown
    · exact sound.unknown other earlier
  · intro strict chunk among
    rcases List.mem_cons.mp among with rfl | earlier
    · exact Or.inr unknown
    · exact sound.strict strict chunk earlier

theorem step {fits : Nat → Prop} (readable : ChunkId.ReadableWithin fits named)
    (sound : progress.Sound policy named base old kept)
    (proper : named fresh.draft.kind fresh.draft.name)
    (within : (Merge.step policy progress fresh).lineage.Within fits) :
    (Merge.step policy progress fresh).Sound policy named base old kept := by
  rcases step_cases policy progress fresh with ⟨dead, place, listed, sameKey, stepped⟩ |
    ⟨allowed, tombstone, place, listed, bearer, stepped⟩ |
    ⟨before, id, after, ordinals, tombstones, given, stepped⟩
  · exact stepped ▸ sound.claim proper listed sameKey
  · exact stepped ▸ sound.revive allowed listed bearer
  · rw [stepped] at within ⊢
    exact sound.give readable proper ordinals tombstones given within

theorem foldl {fits : Nat → Prop} (readable : ChunkId.ReadableWithin fits named)
    {constructs : List FreshChunk}
    (proper : ∀ fresh ∈ constructs, named fresh.draft.kind fresh.draft.name)
    (sound : progress.Sound policy named base old kept)
    (within : (constructs.foldl (Merge.step policy) progress).lineage.Within fits) :
    (constructs.foldl (Merge.step policy) progress).Sound policy named base old kept := by
  induction constructs generalizing progress with
  | nil => exact sound
  | cons construct rest inductionHypothesis =>
    exact inductionHypothesis (fun fresh member => proper fresh (List.mem_cons_of_mem _ member))
      (sound.step readable (proper construct List.mem_cons_self)
        (within.of_covers (covers_foldl_step policy rest _))) within

end Progress.Sound

/-! ### The whole merge -/

variable {policy : Policy} {named : Kind → String → Prop} {lineage : Lineage}
  {survivors : List Chunk} {fresh : List FreshChunk} {invalidated : List Invalidated}

/-- Survivors and dropped chunks are regrouped, but none gets lost. -/
theorem kept_dropped_perm (survivors : List Chunk) (fresh : List FreshChunk)
    (invalidated : List Invalidated) :
    (kept survivors fresh ++ (dropped survivors fresh invalidated).map Invalidated.chunk).Perm
      (survivors ++ invalidated.map Invalidated.chunk) := by
  rw [dropped, List.map_append, Invalidated.map_chunk_atOwnPlace]
  refine .trans (.append_left _ List.perm_append_comm) ?_
  rw [← List.append_assoc]
  exact .append_right _ (List.perm_append_comm.trans (List.filter_append_perm _ survivors))

theorem opening_sound (changes : List LineChange)
    (accounts : lineage.Accounts policy.file named (survivors ++ invalidated.map Invalidated.chunk)) :
    (opening survivors fresh invalidated lineage changes).Sound policy named lineage
      ((survivors ++ invalidated.map Invalidated.chunk).map Chunk.id) (kept survivors fresh) := by
  have regrouped := kept_dropped_perm survivors fresh invalidated
  have sorted := List.mergeSort_perm (dropped survivors fresh invalidated)
    fun left right => decide (left.mappedLine ≤ right.mappedLine)
  have covers : (opening survivors fresh invalidated lineage changes).lineage.Covers lineage :=
    (Lineage.covers_foldl_observe _ _).trans (Lineage.covers_of_ordinals_eq rfl)
  have bearers : (opening survivors fresh invalidated lineage changes).lineage.tombstones.map
      Tombstone.bearer = lineage.tombstones.map Tombstone.bearer := by
    rw [opening, Lineage.tombstones_foldl_observe, Lineage.bearers_shift]
  refine ⟨(accounts.vouches.mono covers).perm ?_, rfl, ?_, covers, by simp [opening], ?_,
    by simp [opening]⟩
  · rw [Progress.bearers, bearers, ← List.append_assoc]
    refine .append_right _ (.trans (regrouped.symm.map _) ?_)
    rw [List.map_append, List.map_map]
    exact .append_left _ (sorted.symm.map _)
  · refine Nat.le_trans (Nat.le_of_eq ?_) accounts.few
    simpa using congrArg List.length bearers
  · intro dead member
    refine List.mem_map_of_mem (regrouped.subset (List.mem_append_right _ ?_))
    exact List.mem_map_of_mem (sorted.subset member)

theorem covers_foldl_bury (unclaimed : List Invalidated) (lineage : Lineage) :
    (unclaimed.foldl (fun lineage dead => lineage.bury dead.chunk dead.mappedLine) lineage).Covers
      lineage := by
  induction unclaimed generalizing lineage with
  | nil => exact .refl lineage
  | cons dead rest inductionHypothesis =>
    exact (inductionHypothesis (lineage.bury dead.chunk dead.mappedLine)).trans
      (lineage.covers_bury dead.chunk dead.mappedLine)

/-- Burying dropped chunks moves their ids from the third group to the fourth, or forgets them. -/
theorem accounts_foldl_bury {chunks : List Chunk} {file : String} (unclaimed : List Invalidated)
    (vouches : lineage.Vouches file named (chunks.map Chunk.bearer
      ++ (unclaimed.map (·.chunk.bearer) ++ lineage.tombstones.map Tombstone.bearer)))
    (few : lineage.tombstones.length ≤ Lineage.tombstoneLimit) :
    (unclaimed.foldl (fun lineage dead => lineage.bury dead.chunk dead.mappedLine) lineage).Accounts
      file named chunks := by
  induction unclaimed generalizing lineage with
  | nil => exact ⟨vouches, few⟩
  | cons dead rest inductionHypothesis =>
    obtain ⟨fewer, bounded⟩ := lineage.tombstones_bury dead.chunk dead.mappedLine
    have covers := lineage.covers_bury dead.chunk dead.mappedLine
    have moved : (((dead :: rest).map (·.chunk.bearer)) ++ lineage.tombstones.map Tombstone.bearer).Perm
        (rest.map (·.chunk.bearer) ++ (lineage.tombstones ++ [Tombstone.mk dead.chunk.id
          dead.chunk.kind dead.chunk.name dead.mappedLine]).map Tombstone.bearer) := by
      rw [List.map_append, List.map_cons, ← List.append_assoc, List.cons_append]
      exact (List.perm_append_singleton _ _).symm
    exact inductionHypothesis (((vouches.perm (.append_left _ moved)).mono covers).sublist
      (.append_left (.append_left (fewer.map _) _) _)) bounded

/-- What a merge makes of a lineage that accounts for the old chunks, whose ids are `old`. -/
structure Outcome.Sound (policy : Policy) (named : Kind → String → Prop) (base : Lineage)
    (old : List String) (outcome : Outcome) : Prop where
  accounts : outcome.lineage.Accounts policy.file named outcome.chunks
  covers : outcome.lineage.Covers base
  unknown : ∀ id ∈ outcome.allocated, ¬ base.Knows policy.file named id
  strict : policy.matching = .strictNameType →
    ∀ chunk ∈ outcome.chunks, chunk.id ∈ old ∨ ¬ base.Knows policy.file named chunk.id

theorem merge_sound {fits : Nat → Prop} (readable : ChunkId.ReadableWithin fits named)
    (changes : List LineChange)
    (proper : ∀ construct ∈ fresh, named construct.draft.kind construct.draft.name)
    {old : List Chunk} (accounts : lineage.Accounts policy.file named old)
    (same : (old.map Chunk.bearer).Perm
      ((survivors ++ invalidated.map Invalidated.chunk).map Chunk.bearer))
    (within : (merge policy survivors fresh invalidated lineage changes).lineage.Within fits) :
    (merge policy survivors fresh invalidated lineage changes).Sound policy named lineage
      (old.map Chunk.id) := by
  have ids : (old.map Chunk.id).Perm
      ((survivors ++ invalidated.map Invalidated.chunk).map Chunk.id) := by
    have mapped := same.map Bearer.id
    rw [List.map_map, List.map_map] at mapped
    exact mapped
  have covers := covers_foldl_bury
    (closing policy survivors fresh invalidated lineage changes).buried
    (closing policy survivors fresh invalidated lineage changes).lineage
  have closed : (closing policy survivors fresh invalidated lineage changes).Sound policy named
      lineage ((survivors ++ invalidated.map Invalidated.chunk).map Chunk.id)
      (kept survivors fresh) :=
    .foldl readable
      (fun construct member => proper construct (FreshChunk.mem_of_mem_dropOverlapping member))
      (opening_sound changes (accounts.perm same)) (within.of_covers covers)
  have buried : (closing policy survivors fresh invalidated lineage changes).buried.Sublist
      (closing policy survivors fresh invalidated lineage changes).unclaimed :=
    List.filter_sublist
  have later := accounts_foldl_bury _
    (closed.vouches.sublist (.append_left (.append_right (buried.map _) _) _)) closed.few
  have arranged : (merge policy survivors fresh invalidated lineage changes).chunks.Perm
      ((closing policy survivors fresh invalidated lineage changes).chunks
        ++ kept survivors fresh) := by
    rw [merge_eq]
    refine (List.mergeSort_perm _ _).trans (.trans (.append_left _ (List.reverse_perm _)) ?_)
    exact List.perm_append_comm
  refine ⟨⟨later.vouches.perm (.append_right _ (arranged.symm.map _)), later.few⟩,
    covers.trans closed.covers, ?_, fun strict chunk member => ?_⟩
  · intro id member
    rw [merge_eq] at member
    exact closed.unknown id (List.mem_reverse.mp member)
  · rw [ids.mem_iff]
    rcases List.mem_append.mp (arranged.subset member) with given | survivor
    · exact closed.strict strict chunk given
    · refine Or.inl (List.mem_map_of_mem (List.mem_append_left _ ?_))
      exact List.mem_of_mem_filter survivor

end Merge

end Chunking
