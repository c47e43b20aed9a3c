/-
The sums that are formed while ids are given out. There are two places where one is
added to a number: an id in use is noted together with the number behind the one that
it carries, and every number that is tried for a new id is counted on from. The
numbers that a merge leaves behind are the greatest of those that it found and of the
sums that are listed for it, so no sum is left out that matters and none is listed that
is not formed.
-/

import Chunking.Proofs.MergeIds

namespace Chunking

namespace Lineage

/-! ### Numbers and sums -/

/-- The numbers of the later lineage are the greatest of those of the earlier one and of the sums,
key by key. -/
def Raised (later earlier : Lineage) (sums : List (String × Nat)) : Prop :=
  ∀ key bound, later.nextOrdinal key ≤ bound ↔
    earlier.nextOrdinal key ≤ bound ∧ ∀ sum ∈ sums, sum.1 = key → sum.2 ≤ bound

theorem raised_of_ordinals_eq {later earlier : Lineage} (same : later.ordinals = earlier.ordinals) :
    later.Raised earlier [] := by
  intro key bound
  rw [nextOrdinal, nextOrdinal, same]
  simp

theorem Raised.trans {last middle first : Lineage} {sums more : List (String × Nat)}
    (later : last.Raised middle more) (earlier : middle.Raised first sums) :
    last.Raised first (sums ++ more) := by
  intro key bound
  rw [later key bound, earlier key bound, and_assoc]
  simp only [List.mem_append, or_imp, forall_and]

theorem Raised.covers {later earlier : Lineage} {sums : List (String × Nat)}
    (raised : later.Raised earlier sums) : later.Covers earlier :=
  fun key => ((raised key _).mp (Nat.le_refl _)).1

/-- No sum is greater than the number that is left behind for its key. -/
theorem Raised.le {later earlier : Lineage} {sums : List (String × Nat)}
    (raised : later.Raised earlier sums) {sum : String × Nat} (member : sum ∈ sums) :
    sum.2 ≤ later.nextOrdinal sum.1 :=
  ((raised sum.1 _).mp (Nat.le_refl _)).2 sum member rfl

/-- One number is replaced by the greatest of itself and sums for its key. -/
theorem raised_insert (lineage : Lineage) {key : String} {next : Nat} {sums : List Nat}
    (greatest : ∀ bound, next ≤ bound ↔
      lineage.nextOrdinal key ≤ bound ∧ ∀ sum ∈ sums, sum ≤ bound) :
    Raised { lineage with ordinals := lineage.ordinals.insert key next } lineage
      (sums.map (key, ·)) := by
  intro other bound
  by_cases same : other = key
  · rw [same, nextOrdinal_insert_self, greatest bound]
    simp
  · have elsewhere : ∀ sum ∈ sums.map (key, ·), sum.1 = other → sum.2 ≤ bound := by
      intro sum member equal
      obtain ⟨_, _, rfl⟩ := List.mem_map.mp member
      exact absurd equal.symm same
    rw [nextOrdinal, Dictionary.get?_insert_of_ne _ same]
    exact (and_iff_left elsewhere).symm

/-! ### Noting ids -/

theorem raised_observe (lineage : Lineage) (chunk : Chunk) :
    (lineage.observe chunk).Raised lineage (noted chunk) := by
  unfold observe noted
  cases ChunkId.ordinal? chunk.id with
  | none => exact raised_of_ordinals_eq rfl
  | some ordinal =>
    have greatest (bound : Nat) : max (lineage.nextOrdinal chunk.key) (ordinal + 1) ≤ bound ↔
        lineage.nextOrdinal chunk.key ≤ bound ∧ ∀ sum ∈ [ordinal + 1], sum ≤ bound := by
      rw [Nat.max_le, List.forall_mem_singleton]
    exact lineage.raised_insert greatest

theorem raised_foldl_observe (chunks : List Chunk) (lineage : Lineage) :
    (chunks.foldl observe lineage).Raised lineage (chunks.flatMap noted) := by
  induction chunks generalizing lineage with
  | nil => exact raised_of_ordinals_eq rfl
  | cons chunk rest inductionHypothesis =>
    exact (inductionHypothesis (lineage.observe chunk)).trans (lineage.raised_observe chunk)

theorem raised_foldl_bury (dead : List Invalidated) (lineage : Lineage) :
    (dead.foldl (fun lineage one => lineage.bury one.chunk one.mappedLine) lineage).Raised lineage
      (dead.flatMap fun one => noted one.chunk) := by
  induction dead generalizing lineage with
  | nil => exact raised_of_ordinals_eq rfl
  | cons one rest inductionHypothesis =>
    exact (inductionHypothesis (lineage.bury one.chunk one.mappedLine)).trans
      (lineage.raised_observe one.chunk)

/-! ### Trying numbers -/

/-- The number behind the one that is found is the greatest of the sums. -/
theorem firstFree_lt_iff (isTaken : Nat → Bool) (tries ordinal bound : Nat) :
    firstFree isTaken tries ordinal + 1 ≤ bound ↔
      ∀ sum ∈ tried isTaken tries ordinal, sum ≤ bound := by
  induction tries generalizing ordinal with
  | zero => simp [firstFree, tried]
  | succ tries inductionHypothesis =>
    unfold firstFree tried
    split
    · have passed := le_firstFree isTaken tries (ordinal + 1)
      rw [List.forall_mem_cons, ← inductionHypothesis (ordinal + 1)]
      constructor
      · exact fun below => ⟨by omega, below⟩
      · exact And.right
    · simp

theorem raised_allocate (lineage : Lineage) (file : String) (kind : Kind) (name : String)
    (live : List String) :
    (lineage.allocate file kind name live).2.Raised lineage
      (lineage.counted file kind name live) := by
  refine lineage.raised_insert fun bound => ?_
  rw [firstFree_lt_iff]
  refine (and_iff_right_of_imp fun below => ?_).symm
  rw [← firstFree_lt_iff] at below
  exact Nat.le_trans (le_firstFree _ _ _) (Nat.le_of_succ_le below)

end Lineage

/-! ### Merges -/

namespace Merge

theorem sublist_unclaimed_step (policy : Policy) (progress : Progress) (fresh : FreshChunk) :
    (step policy progress fresh).unclaimed.Sublist progress.unclaimed := by
  rcases step_cases policy progress fresh with ⟨_, place, _, _, stepped⟩ | ⟨_, _, _, _, _, stepped⟩ |
    ⟨_, _, _, _, _, _, stepped⟩
  · rw [stepped]
    exact List.eraseIdx_sublist _ place
  · rw [stepped]
  · rw [stepped]

theorem sublist_unclaimed_foldl (policy : Policy) (constructs : List FreshChunk)
    (progress : Progress) :
    (constructs.foldl (step policy) progress).unclaimed.Sublist progress.unclaimed := by
  induction constructs generalizing progress with
  | nil => exact .refl _
  | cons fresh rest inductionHypothesis =>
    exact (inductionHypothesis (step policy progress fresh)).trans
      (sublist_unclaimed_step policy progress fresh)

variable (policy : Policy)

theorem raised_step (progress : Progress) (fresh : FreshChunk) :
    (step policy progress fresh).lineage.Raised progress.lineage
      (stepSums policy progress fresh) := by
  unfold step stepSums
  cases claim? policy.matching progress.unclaimed fresh with
  | some claimed => exact Lineage.raised_of_ordinals_eq rfl
  | none =>
    simp only
    cases revived : revive policy progress fresh with
    | mk back lineage =>
      have same : lineage.ordinals = progress.lineage.ordinals := by
        rcases revive_cases revived with ⟨_, ordinals, _⟩ | ⟨_, _, _, _, _, _, after⟩
        · exact ordinals
        · rw [after]
      cases back with
      | some id => exact Lineage.raised_of_ordinals_eq same
      | none =>
        exact (lineage.raised_allocate policy.file fresh.draft.kind fresh.draft.name
          progress.live).trans (Lineage.raised_of_ordinals_eq same)

theorem raised_foldl_step (constructs : List FreshChunk) (progress : Progress) :
    (constructs.foldl (step policy) progress).lineage.Raised progress.lineage
      (foldSums policy constructs progress) := by
  induction constructs generalizing progress with
  | nil => exact Lineage.raised_of_ordinals_eq rfl
  | cons fresh rest inductionHypothesis =>
    exact (inductionHypothesis (step policy progress fresh)).trans
      (raised_step policy progress fresh)

namespace Input

variable (input : Input)

/-- The state before the first construct. -/
def opened : Progress :=
  opening input.survivors input.fresh input.invalidated input.lineage input.changes

/-- The state behind the last construct. -/
def closed : Progress :=
  closing input.policy input.survivors input.fresh input.invalidated input.lineage input.changes

theorem allocated_outcome : input.outcome.allocated = input.closed.allocated.reverse := rfl

/-- The ids of a merge differ only if those do that constructs got. -/
theorem nodup_closed (distinct : (input.outcome.chunks.map Chunk.id).Nodup) :
    (input.closed.chunks.map Chunk.id).Nodup := by
  have all := ((List.mergeSort_perm _ _).map Chunk.id).nodup_iff.mp distinct
  rw [List.map_append] at all
  exact ((List.reverse_perm _).map Chunk.id).nodup_iff.mp (List.nodup_append.mp all).2.1

section row

variable {input} (row : FreshChunk.dropOverlapping input.fresh = input.fresh)

include row

/-- If no construct overlaps another one, all of them get their ids one after another. -/
theorem closed_of_row : input.closed = input.fresh.foldl (step input.policy) input.opened := by
  rw [closed, closing, row]
  rfl

theorem sums_of_row : input.sums =
    (kept input.survivors input.fresh
      ++ (dropped input.survivors input.fresh input.invalidated).map Invalidated.chunk).flatMap
        Lineage.noted
    ++ foldSums input.policy input.fresh input.opened
    ++ input.closed.buried.flatMap fun dead => Lineage.noted dead.chunk := by
  change _ ++ foldSums _ (FreshChunk.dropOverlapping input.fresh) _ ++ _ = _
  rw [row]
  rfl

end row

/-- The numbers that a merge leaves behind are the greatest of those that it found and of its
sums. -/
theorem raised_outcome : input.outcome.lineage.Raised input.lineage input.sums := by
  have shifted : (input.lineage.shift input.changes).Raised input.lineage [] :=
    Lineage.raised_of_ordinals_eq rfl
  have opened := (Lineage.raised_foldl_observe (kept input.survivors input.fresh
    ++ (dropped input.survivors input.fresh input.invalidated).map Invalidated.chunk)
      (input.lineage.shift input.changes)).trans shifted
  have closed := (raised_foldl_step input.policy (FreshChunk.dropOverlapping input.fresh)
    input.opened).trans opened
  exact (Lineage.raised_foldl_bury input.closed.buried input.closed.lineage).trans closed

variable {input}

theorem overflows_eq_false_iff :
    input.overflows = false ↔ ∀ sum ∈ input.sums, sum.2 < ChunkId.ordinalLimit := by
  rw [overflows, Lineage.overflow, List.any_eq_false]
  simp only [decide_eq_true_eq, Nat.not_le]

/-- Before the first construct numbers fit if they did at the start and the ids of the old chunks can
be noted. -/
theorem opened_lt {limit : Nat}
    (noted : ∀ chunk ∈ kept input.survivors input.fresh
        ++ (dropped input.survivors input.fresh input.invalidated).map Invalidated.chunk,
      ∀ sum ∈ Lineage.noted chunk, sum.2 < limit)
    {key : String} (start : input.lineage.nextOrdinal key < limit) :
    input.opened.lineage.nextOrdinal key < limit := by
  have most : input.opened.lineage.nextOrdinal key ≤ limit - 1 := by
    refine (Lineage.raised_foldl_observe _ _ key _).mpr
      ⟨Nat.le_sub_one_of_lt start, fun sum formed _ => ?_⟩
    obtain ⟨chunk, member, here⟩ := List.mem_flatMap.mp formed
    exact Nat.le_sub_one_of_lt (noted chunk member sum here)
  omega

/-- A merge can be carried out if the ids of the old chunks can be noted and the numbers still fit
behind the last construct. -/
theorem overflows_eq_false
    (noted : ∀ chunk ∈ kept input.survivors input.fresh
        ++ (dropped input.survivors input.fresh input.invalidated).map Invalidated.chunk,
      ∀ sum ∈ Lineage.noted chunk, sum.2 < ChunkId.ordinalLimit)
    (closed : ∀ key, input.closed.lineage.nextOrdinal key < ChunkId.ordinalLimit) :
    input.overflows = false := by
  refine overflows_eq_false_iff.mpr fun sum formed => ?_
  rcases List.mem_append.mp formed with early | late
  · rcases List.mem_append.mp early with first | middle
    · obtain ⟨chunk, member, here⟩ := List.mem_flatMap.mp first
      exact noted chunk member sum here
    · exact Nat.lt_of_le_of_lt ((raised_foldl_step input.policy _ input.opened).le middle)
        (closed sum.1)
  · obtain ⟨dead, member, here⟩ := List.mem_flatMap.mp late
    have among : dead ∈ input.opened.unclaimed :=
      (sublist_unclaimed_foldl input.policy _ input.opened).subset (List.mem_filter.mp member).1
    have old : dead ∈ dropped input.survivors input.fresh input.invalidated :=
      List.mem_mergeSort.mp among
    exact noted dead.chunk (List.mem_append_right _ (List.mem_map_of_mem old)) sum here

/-- As long as sums stay below a limit, so do the numbers. -/
theorem nextOrdinal_lt {key : String} {limit : Nat} (start : input.lineage.nextOrdinal key < limit)
    (small : ∀ sum ∈ input.sums, sum.2 < limit) :
    input.outcome.lineage.nextOrdinal key < limit := by
  have most : input.outcome.lineage.nextOrdinal key ≤ limit - 1 :=
    (input.raised_outcome key _).mpr ⟨Nat.le_sub_one_of_lt start,
      fun sum formed _ => Nat.le_sub_one_of_lt (small sum formed)⟩
  omega

end Input

end Merge

end Chunking
