/-
Constructs that stay where they are. An edit that only moves a construct leaves it
at the very line to which its old chunk is mapped, and no dropped chunk of its key
can be nearer. Still it need not get its old id back: constructs are gone through
from the top, and one that stands higher up takes the nearest chunk that is left
for itself, however far away that is. This is the only way to lose the id, and it
does not happen as long as nothing of the key has been put in front.
-/

import Chunking.Proofs.Succession

namespace Chunking.Merge

/-- The construct starts where a dropped chunk of its key would, and no other one of the key would
start there. -/
structure Grant.Continues (pool : List Invalidated) (grant : Grant) (dead : Invalidated) : Prop where
  member : dead ∈ pool
  sameKey : dead.chunk.key = grant.key
  here : dead.mappedLine = grant.construct.span.startLine
  alone : ∀ other ∈ pool, other.chunk.key = grant.key →
    other.mappedLine = grant.construct.span.startLine → other = dead

namespace Hands

variable {live : List String} {pool : List Invalidated} {before after : List Grant} {grant : Grant}
  {dead : Invalidated}

/-- Nothing is as near as a chunk at the very line of the construct. -/
theorem eq_of_continues (continues : grant.Continues pool dead) {other : Invalidated}
    (member : other ∈ pool) (sameKey : other.chunk.key = grant.key)
    (nearer : other.distance grant.construct ≤ dead.distance grant.construct) : other = dead := by
  refine continues.alone other member sameKey ?_
  have here := continues.here
  unfold Invalidated.distance at nearer
  omega

/-- Such a construct gets the id of the chunk unless an earlier one of its key got it. -/
theorem continues_iff (hands : Hands .nameTypeProximity live pool (before ++ grant :: after))
    (distinct : (pool.map (·.chunk.id)).Nodup) (continues : grant.Continues pool dead) :
    grant.id = dead.chunk.id ↔
      ∀ earlier ∈ before, earlier.key = grant.key → earlier.id ≠ dead.chunk.id := by
  constructor
  · -- Both of them would have claimed a chunk with that id.
    intro gets earlier among sameKey alsoGets
    have claims (other : Grant) (member : other ∈ before ++ grant :: after)
        (ofKey : other.key = grant.key) (id : other.id = dead.chunk.id) : other.claimed?.isSome :=
      (hands.claimed_iff member).mpr
        ⟨dead, continues.member, continues.sameKey.trans ofKey.symm, id.symm⟩
    have first := claims earlier (List.mem_append_left _ among) sameKey alsoGets
    have second := claims grant (by simp) rfl gets
    have once := hands.nodup_claimed distinct
    rw [List.filter_append, List.map_append] at once
    exact (List.nodup_append.mp once).2.2
      earlier.id (List.mem_map_of_mem (List.mem_filter.mpr ⟨among, first⟩))
      grant.id (List.mem_map_of_mem (List.mem_filter.mpr ⟨List.mem_cons_self, second⟩))
      (alsoGets.trans gets.symm)
  · intro nobody
    have left : ∀ earlier ∈ before, earlier.claimed? ≠ some dead := by
      intro earlier among claimed
      have sameKey := (hands.mem_of_claimed (List.mem_append_left _ among) claimed).2
      exact nobody earlier among (sameKey.symm.trans continues.sameKey) (id_of_claimed claimed)
    cases known : grant.claimed? with
    | none =>
      obtain ⟨earlier, among, claimed⟩ := hands.exhausted known continues.member continues.sameKey
      exact absurd claimed (left earlier among)
    | some claimed =>
      obtain ⟨member, sameKey⟩ := hands.mem_of_claimed (by simp) known
      have nearest := hands.nearest rfl known continues.member continues.sameKey left
      rw [id_of_claimed known, eq_of_continues continues member sameKey nearest]

/-- If all earlier constructs of the key are such, too, each of them gets its own chunk's id. -/
theorem id_of_continues (hands : Hands .nameTypeProximity live pool (before ++ grant :: after))
    (distinct : (pool.map (·.chunk.id)).Nodup)
    (row : (before ++ grant :: after).Pairwise fun earlier later =>
      earlier.construct.span.startLine < later.construct.span.startLine)
    (continues : grant.Continues pool dead)
    (all : ∀ earlier ∈ before, earlier.key = grant.key → ∃ own, earlier.Continues pool own) :
    grant.id = dead.chunk.id := by
  -- By induction on the number of constructs before it: those got the ids of chunks at other lines.
  induction size : before.length using Nat.strongRecOn generalizing before after grant dead with
  | ind count inductionHypothesis =>
    rw [hands.continues_iff distinct continues]
    intro earlier among sameKey gets
    obtain ⟨own, ownContinues⟩ := all earlier among sameKey
    have higher : earlier.construct.span.startLine < grant.construct.span.startLine :=
      (List.pairwise_append.mp row).2.2 earlier among grant List.mem_cons_self
    obtain ⟨first, second, rfl⟩ := List.append_of_mem among
    rw [List.append_assoc, List.cons_append] at hands row
    have got : earlier.id = own.chunk.id := by
      refine inductionHypothesis first.length (by rw [← size]; simp) hands row ownContinues ?_ rfl
      intro other member otherKey
      exact all other (List.mem_append_left _ member) (otherKey.trans sameKey)
    have same : own = dead :=
      List.inj_on_of_nodup_map distinct ownContinues.member continues.member (got.symm.trans gets)
    have ownLine := ownContinues.here
    rw [same, continues.here] at ownLine
    omega

end Hands

/-- It does not matter in which order the dropped chunks are. -/
theorem Grant.Continues.sorted {pool : List Invalidated} {grant : Grant} {dead : Invalidated}
    (continues : grant.Continues pool dead) :
    grant.Continues (pool.mergeSort (·.mappedLine ≤ ·.mappedLine)) dead where
  member := List.mem_mergeSort.mpr continues.member
  sameKey := continues.sameKey
  here := continues.here
  alone := fun other member => continues.alone other (List.mem_mergeSort.mp member)

/-- Constructs that have lines start below each other. -/
theorem Outcome.Granted.row {outcome : Outcome} {survivors : List Chunk} {fresh : List FreshChunk}
    {grants : List Grant} (granted : outcome.Granted survivors fresh grants)
    (proper : ∀ construct ∈ fresh, construct.span.startLine ≤ construct.span.endLine) :
    grants.Pairwise fun earlier later =>
      earlier.construct.span.startLine < later.construct.span.startLine := by
  have row := FreshChunk.before_dropOverlapping proper
  rw [← granted.constructs, List.pairwise_map] at row
  refine row.imp_of_mem fun {earlier later} member _ before => ?_
  have among : earlier.construct ∈ FreshChunk.dropOverlapping fresh :=
    granted.constructs ▸ List.mem_map_of_mem member
  exact Nat.lt_of_le_of_lt (proper _ (FreshChunk.mem_of_mem_dropOverlapping among)) before

/-- A construct at the very line of a dropped chunk gets that chunk's id if and only if no earlier
construct of its key got it, and it does so whenever all of these are at the line of a chunk, too. -/
theorem merge_continues (policy : Policy) (proximity : policy.matching = .nameTypeProximity)
    {survivors : List Chunk} (fresh : List FreshChunk) {invalidated : List Invalidated}
    (lineage : Lineage) (changes : List LineChange)
    (distinct : ((survivors ++ invalidated.map Invalidated.chunk).map Chunk.id).Nodup) :
    ∃ grants,
      (merge policy survivors fresh invalidated lineage changes).Granted survivors fresh grants ∧
      ∀ before grant after dead, grants = before ++ grant :: after →
        grant.Continues (dropped survivors fresh invalidated) dead →
        (grant.id = dead.chunk.id ↔
          ∀ earlier ∈ before, earlier.key = grant.key → earlier.id ≠ dead.chunk.id) ∧
        ((∀ construct ∈ fresh, construct.span.startLine ≤ construct.span.endLine) →
          (∀ earlier ∈ before, earlier.key = grant.key →
            ∃ own, earlier.Continues (dropped survivors fresh invalidated) own) →
          grant.id = dead.chunk.id) := by
  obtain ⟨grants, granted, hands⟩ :=
    merge_hands policy survivors fresh invalidated lineage changes
  rw [proximity] at hands
  have sorted := (List.mergeSort_perm (dropped survivors fresh invalidated)
    fun left right => decide (left.mappedLine ≤ right.mappedLine)).map (·.chunk.id)
  have ids := sorted.nodup_iff.mpr (nodup_dropped fresh distinct)
  refine ⟨grants, granted, ?_⟩
  rintro before grant after dead rfl continues
  refine ⟨hands.continues_iff ids continues.sorted, fun proper all => ?_⟩
  refine hands.id_of_continues ids (granted.row proper) continues.sorted
    fun earlier among sameKey => ?_
  obtain ⟨own, ownContinues⟩ := all earlier among sameKey
  exact ⟨own, ownContinues.sorted⟩

/-- A function `a` that has been moved to line 5 loses its id to another one that was put above. -/
theorem merge_continues_robbed :
    let construct (span : Span) : FreshChunk :=
      ⟨{ kind := .function, name := "a", span, rawConfidence := ⟨0⟩ }, "", ⟨0⟩⟩
    let old : Chunk := { id := "f::function::a", kind := .function, name := "a", span := ⟨3, 4⟩
                         contentHash := "", confidence := ⟨0⟩ }
    let fresh := [construct ⟨1, 2⟩, construct ⟨5, 6⟩]
    let invalidated : List Invalidated := [⟨old, 5⟩]
    let outcome := merge ⟨"f", .nameTypeProximity, 3⟩ [] fresh invalidated {} []
    (∃ grants, outcome.Granted [] fresh grants ∧
        ∀ before grant after dead, grants = before ++ grant :: after →
          grant.Continues (dropped [] fresh invalidated) dead →
          (grant.id = dead.chunk.id ↔
            ∀ earlier ∈ before, earlier.key = grant.key → earlier.id ≠ dead.chunk.id)) ∧
      outcome.reused = ["f::function::a"] ∧
      ∀ chunk ∈ outcome.chunks, chunk.id = "f::function::a" ↔ chunk.span.startLine = 1 := by
  intro construct old fresh invalidated outcome
  have row : FreshChunk.dropOverlapping fresh = fresh :=
    FreshChunk.dropOverlapping_eq_self (by decide) (by decide)
  have distinct : (([] ++ invalidated.map Invalidated.chunk).map Chunk.id).Nodup := by decide
  obtain ⟨grants, granted, continues⟩ :=
    merge_continues ⟨"f", .nameTypeProximity, 3⟩ rfl fresh {} [] distinct
  refine ⟨⟨grants, granted, fun before grant after dead whole here =>
    (continues before grant after dead whole here).1⟩, ?_, ?_⟩
  · simp only [outcome, merge_eq, closing, row]
    decide +kernel
  · simp only [outcome, merge_eq, closing, row, List.mem_mergeSort]
    decide +kernel

end Chunking.Merge
