/-
Who takes over whose id. Constructs are gone through in the order of their lines.
As long as a dropped chunk of its key is left, a construct takes over the id of
one of them, the first or the nearest as the policy demands; only then is an id
brought back or given out, and that is never one that was taken over before. So
for every key as many ids are handed over as there are constructs or dropped
chunks, whichever is less, and they go from different chunks to different
constructs. What happens under one key has no effect on any other.
-/

import Chunking.Proofs.Identifiers
import Chunking.Proofs.MergeIds
import Mathlib.Data.List.Nodup
import Mathlib.Data.List.Perm.Subperm

namespace Chunking

/-! ### Ids that are given out -/

namespace Lineage

/-- If the number that is found is taken, so are all that were tried. -/
theorem isTaken_of_firstFree (isTaken : Nat → Bool) {tries ordinal : Nat}
    (taken : isTaken (firstFree isTaken tries ordinal) = true) {count : Nat}
    (tried : count ≤ tries) : isTaken (ordinal + count) = true := by
  induction tries generalizing ordinal count with
  | zero => rwa [Nat.le_zero.mp tried]
  | succ tries inductionHypothesis =>
    unfold firstFree at taken
    split at taken
    next here =>
      cases count with
      | zero => exact here
      | succ count =>
        have later := inductionHypothesis taken (Nat.le_of_succ_le_succ tried)
        rwa [Nat.add_assoc, Nat.add_comm 1] at later
    next free => exact absurd taken free

/-- An id that is given out is not live: there are more numbers to try than live ids. -/
theorem allocate_not_mem (lineage : Lineage) (file : String) (kind : Kind) (name : String)
    (live : List String) : (lineage.allocate file kind name live).1 ∉ live := by
  intro member
  rw [allocate] at member
  let next := lineage.nextOrdinal (ChunkId.key kind name)
  let tried := (List.range (live.length + 1)).map fun count =>
    ChunkId.format file kind name (next + count)
  have distinct : tried.Nodup :=
    List.Nodup.map (fun first second same => Nat.add_left_cancel (ChunkId.format_ordinal_inj same))
      List.nodup_range
  have allLive : tried ⊆ live := by
    intro id among
    obtain ⟨count, inside, rfl⟩ := List.mem_map.mp among
    have taken := isTaken_of_firstFree
      (fun ordinal => live.contains (ChunkId.format file kind name ordinal)) (by simpa using member)
      (Nat.le_of_lt_succ (List.mem_range.mp inside))
    simpa using taken
  have atMost := (List.subperm_of_subset distinct allLive).length_le
  rw [List.length_map, List.length_range] at atMost
  exact Nat.not_succ_le_self _ atMost

end Lineage

/-- How far a construct is from where a dropped chunk would be. -/
def Invalidated.distance (dead : Invalidated) (construct : FreshChunk) : Nat :=
  ((dead.mappedLine : Int) - construct.span.startLine).natAbs

namespace Merge

/-! ### Grants -/

/-- Where the id of a construct comes from. -/
inductive Source where
  | claimed (dead : Invalidated)
  | revived (id : String)
  | allocated (id : String)

namespace Source

def id : Source → String
  | claimed dead => dead.chunk.id
  | revived id => id
  | allocated id => id

/-- The dropped chunk that an id is taken over from. -/
def claimed? : Source → Option Invalidated
  | claimed dead => some dead
  | revived _ => none
  | allocated _ => none

/-- The id, if it has been used before. -/
def reused? : Source → Option String
  | claimed dead => some dead.chunk.id
  | revived id => some id
  | allocated _ => none

/-- The id, if it is a new one. -/
def allocated? : Source → Option String
  | claimed _ => none
  | revived _ => none
  | allocated id => some id

theorem claimed?_eq_some {source : Source} {dead : Invalidated} :
    source.claimed? = some dead ↔ source = .claimed dead := by
  cases source <;> simp [claimed?]

end Source

/-- A construct that is kept, with the source of its id. -/
structure Grant where
  construct : FreshChunk
  source : Source

namespace Grant

def key (grant : Grant) : String :=
  grant.construct.key

def id (grant : Grant) : String :=
  grant.source.id

/-- The chunk that the construct becomes. -/
def chunk (grant : Grant) : Chunk :=
  grant.construct.toChunk grant.id

def claimed? (grant : Grant) : Option Invalidated :=
  grant.source.claimed?

end Grant

/-- Constructs get their ids one after another, while the dropped chunks `unclaimed` are left and the
ids `live` are in use. -/
inductive Hands (matching : IdMatching) :
    (live : List String) → (unclaimed : List Invalidated) → List Grant → Prop where
  | done (live : List String) (unclaimed : List Invalidated) : Hands matching live unclaimed []
  | claim {live : List String} {front back : List Invalidated} {dead : Invalidated}
      {construct : FreshChunk} {grants : List Grant} (sameKey : dead.chunk.key = construct.key)
      (first : matching = .strictNameType → ∀ other ∈ front, other.chunk.key ≠ construct.key)
      (nearest : matching = .nameTypeProximity → ∀ other ∈ front ++ dead :: back,
        other.chunk.key = construct.key → dead.distance construct ≤ other.distance construct)
      (rest : Hands matching (dead.chunk.id :: live) (front ++ back) grants) :
      Hands matching live (front ++ dead :: back) (⟨construct, .claimed dead⟩ :: grants)
  | renew {live : List String} {unclaimed : List Invalidated} {construct : FreshChunk}
      {source : Source} {grants : List Grant} (renewed : source.claimed? = none)
      (nobody : ∀ dead ∈ unclaimed, dead.chunk.key ≠ construct.key) (unused : source.id ∉ live)
      (rest : Hands matching (source.id :: live) unclaimed grants) :
      Hands matching live unclaimed (⟨construct, source⟩ :: grants)

/-! ### The run of a merge -/

section run

variable {matching : IdMatching} {unclaimed : List Invalidated} {construct : FreshChunk}

/-- A claim is for a dropped chunk of the key of the construct: the first one, or the nearest. -/
theorem claim?_spec {dead : Invalidated} {place : Nat}
    (claimed : claim? matching unclaimed construct = some (dead, place)) :
    ∃ front back, unclaimed = front ++ dead :: back ∧ unclaimed.eraseIdx place = front ++ back ∧
      (matching = .strictNameType → ∀ other ∈ front, other.chunk.key ≠ construct.key) ∧
      (matching = .nameTypeProximity → ∀ other ∈ unclaimed, other.chunk.key = construct.key →
        dead.distance construct ≤ other.distance construct) := by
  obtain ⟨listed, _⟩ := claim?_eq_some claimed
  obtain ⟨inside, atPlace⟩ := List.getElem?_eq_some_iff.mp listed
  refine ⟨unclaimed.take place, unclaimed.drop (place + 1), ?_,
    List.eraseIdx_eq_take_drop_succ _ _, ?_, ?_⟩
  · rw [← atPlace, List.getElem_cons_drop, List.take_append_drop]
  · rintro rfl other among
    rw [claim?, List.head?_filter, List.find?_eq_some_iff_getElem] at claimed
    obtain ⟨_, count, _, found, earlier⟩ := claimed
    obtain ⟨index, before, rfl⟩ := List.mem_take_iff_getElem.mp among
    have same : count = place := by simpa using congrArg Prod.snd found
    have other := earlier index (by omega)
    simpa using other
  · rintro rfl other member sameKey
    obtain ⟨index, candidate⟩ := mem_candidates member sameKey
    exact firstLeast?_le claimed candidate

/-- What is brought back in a merge is not live. -/
theorem revive_not_mem {policy : Policy} {progress : Progress} {id : String} {after : Lineage}
    (revived : revive policy progress construct = (some id, after)) : id ∉ progress.live := by
  unfold revive at revived
  split at revived
  · cases (Prod.mk.inj revived).1
  · have filtered := (Prod.mk.inj revived).1
    simpa using (Option.filter_eq_some_iff.mp filtered).2

/-- In one step a construct gets an id from some source, and all the others may follow. -/
theorem step_hands (policy : Policy) (progress : Progress) (construct : FreshChunk) :
    ∃ source : Source,
      (step policy progress construct).chunks = construct.toChunk source.id :: progress.chunks ∧
      (step policy progress construct).live = source.id :: progress.live ∧
      (step policy progress construct).reused = source.reused?.toList ++ progress.reused ∧
      (step policy progress construct).allocated = source.allocated?.toList ++ progress.allocated ∧
      ∀ grants, Hands policy.matching (source.id :: progress.live)
          (step policy progress construct).unclaimed grants →
        Hands policy.matching progress.live progress.unclaimed (⟨construct, source⟩ :: grants) := by
  unfold step
  split
  next dead place claimed =>
    obtain ⟨_, sameKey⟩ := claim?_eq_some claimed
    obtain ⟨front, back, whole, erased, first, nearest⟩ := claim?_spec claimed
    refine ⟨.claimed dead, rfl, rfl, rfl, rfl, fun grants hands => ?_⟩
    simp only [erased] at hands
    rw [whole] at nearest ⊢
    exact .claim sameKey first nearest hands
  next nothing =>
    have nobody := claim?_eq_none nothing
    split
    next id lineage revived =>
      exact ⟨.revived id, rfl, rfl, rfl, rfl,
        fun grants hands => .renew rfl nobody (revive_not_mem revived) hands⟩
    next lineage _ =>
      exact ⟨.allocated _, rfl, rfl, rfl, rfl,
        fun grants hands => .renew rfl nobody (lineage.allocate_not_mem _ _ _ _) hands⟩

theorem foldl_step_hands (policy : Policy) (constructs : List FreshChunk) (progress : Progress) :
    ∃ grants : List Grant, grants.map Grant.construct = constructs ∧
      Hands policy.matching progress.live progress.unclaimed grants ∧
      (constructs.foldl (step policy) progress).chunks =
        (grants.map Grant.chunk).reverse ++ progress.chunks ∧
      (constructs.foldl (step policy) progress).reused =
        (grants.filterMap (·.source.reused?)).reverse ++ progress.reused ∧
      (constructs.foldl (step policy) progress).allocated =
        (grants.filterMap (·.source.allocated?)).reverse ++ progress.allocated := by
  induction constructs generalizing progress with
  | nil => exact ⟨[], rfl, .done _ _, rfl, rfl, rfl⟩
  | cons construct rest inductionHypothesis =>
    obtain ⟨source, chunks, live, reused, allocated, hands⟩ := step_hands policy progress construct
    obtain ⟨grants, constructs, later, laterChunks, laterReused, laterAllocated⟩ :=
      inductionHypothesis (step policy progress construct)
    rw [live] at later
    refine ⟨⟨construct, source⟩ :: grants, by rw [List.map_cons, constructs], hands grants later,
      ?_, ?_, ?_⟩
    · rw [List.foldl_cons, laterChunks, chunks, List.map_cons, List.reverse_cons, List.append_assoc]
      rfl
    · rw [List.foldl_cons, laterReused, reused]
      cases known : source.reused? <;> simp [known]
    · rw [List.foldl_cons, laterAllocated, allocated]
      cases known : source.allocated? <;> simp [known]

end run

/-! ### What is handed over -/

namespace Hands

variable {matching : IdMatching} {live : List String} {unclaimed : List Invalidated}
  {grants before after : List Grant}

/-- Behind some of the constructs, the dropped chunks that they did not claim are left, and the ids
that they got are in use. -/
theorem split (hands : Hands matching live unclaimed (before ++ after)) :
    ∃ used left, (before.filterMap Grant.claimed? ++ left).Perm unclaimed ∧
      live ++ before.map Grant.id ⊆ used ∧ Hands matching used left after := by
  induction before generalizing live unclaimed with
  | nil => exact ⟨live, unclaimed, .refl _, by simp, hands⟩
  | cons grant rest inductionHypothesis =>
    have regrouped : (live ++ (grant :: rest).map Grant.id).Perm
        (grant.id :: live ++ rest.map Grant.id) := List.perm_middle
    rw [List.cons_append] at hands
    cases hands with
    | claim sameKey first nearest hands =>
      obtain ⟨used, left, whole, inUse, later⟩ := inductionHypothesis hands
      exact ⟨used, left, (whole.cons _).trans List.perm_middle.symm,
        List.Subset.trans regrouped.subset inUse, later⟩
    | renew renewed nobody unused hands =>
      obtain ⟨used, left, whole, inUse, later⟩ := inductionHypothesis hands
      refine ⟨used, left, ?_, List.Subset.trans regrouped.subset inUse, later⟩
      simpa [Grant.claimed?, renewed] using whole

/-- Whoever claims a dropped chunk has its key. -/
theorem mem_of_claimed (hands : Hands matching live unclaimed grants) {grant : Grant}
    (member : grant ∈ grants) {dead : Invalidated} (claimed : grant.claimed? = some dead) :
    dead ∈ unclaimed ∧ dead.chunk.key = grant.key := by
  obtain ⟨before, after, rfl⟩ := List.append_of_mem member
  obtain ⟨used, left, whole, inUse, later⟩ := hands.split
  cases later with
  | claim sameKey =>
    cases claimed
    exact ⟨whole.subset (by simp), sameKey⟩
  | renew renewed => cases renewed.symm.trans claimed

/-- Before an id is brought back or given out, all dropped chunks of the key have been claimed. -/
theorem exhausted {grant : Grant} (hands : Hands matching live unclaimed (before ++ grant :: after))
    (renewed : grant.claimed? = none) {dead : Invalidated} (member : dead ∈ unclaimed)
    (sameKey : dead.chunk.key = grant.key) : ∃ earlier ∈ before, earlier.claimed? = some dead := by
  obtain ⟨used, left, whole, inUse, later⟩ := hands.split
  cases later with
  | claim => cases renewed
  | renew _ nobody =>
    rcases List.mem_append.mp (whole.symm.subset member) with early | still
    · exact List.mem_filterMap.mp early
    · exact absurd sameKey (nobody dead still)

theorem id_of_claimed {grant : Grant} {dead : Invalidated} (claimed : grant.claimed? = some dead) :
    grant.id = dead.chunk.id := by
  rw [Grant.id, Source.claimed?_eq_some.mp claimed]
  rfl

/-- Only those who claim a dropped chunk of their key have the id of one. -/
theorem claimed_iff (hands : Hands matching live unclaimed grants) {grant : Grant}
    (member : grant ∈ grants) : grant.claimed?.isSome ↔
      ∃ dead ∈ unclaimed, dead.chunk.key = grant.key ∧ dead.chunk.id = grant.id := by
  cases known : grant.claimed? with
  | some dead =>
    obtain ⟨among, sameKey⟩ := hands.mem_of_claimed member known
    exact iff_of_true rfl ⟨dead, among, sameKey, (id_of_claimed known).symm⟩
  | none =>
    -- All dropped chunks of the key are claimed, so their ids are in use and the new id is not.
    refine iff_of_false Bool.false_ne_true ?_
    rintro ⟨dead, among, sameKey, sameId⟩
    obtain ⟨before, after, rfl⟩ := List.append_of_mem member
    obtain ⟨earlier, early, claimed⟩ := hands.exhausted known among sameKey
    obtain ⟨used, left, whole, inUse, later⟩ := hands.split
    have taken : grant.id ∈ used := by
      rw [← sameId, ← id_of_claimed claimed]
      exact inUse (List.mem_append_right _ (List.mem_map_of_mem early))
    cases later with
    | claim => cases known
    | renew _ _ unused => exact unused taken

/-- For each key as many dropped chunks are claimed as there are constructs or dropped chunks. -/
theorem countP_claimed (hands : Hands matching live unclaimed grants) (key : String) :
    grants.countP (fun grant => grant.key = key ∧ grant.claimed?.isSome) =
      min (grants.countP (·.key = key)) (unclaimed.countP (·.chunk.key = key)) := by
  induction hands with
  | done live unclaimed => simp
  | @claim live front back dead construct grants sameKey first nearest rest inductionHypothesis =>
    simp only [List.countP_append, List.countP_cons] at inductionHypothesis ⊢
    rw [inductionHypothesis, sameKey]
    by_cases here : construct.key = key
    · simp [Grant.key, Grant.claimed?, Source.claimed?, here]
      omega
    · simp [Grant.key, here]
  | @renew live unclaimed construct source grants renewed nobody unused rest inductionHypothesis =>
    simp only [List.countP_cons] at inductionHypothesis ⊢
    rw [inductionHypothesis]
    by_cases here : construct.key = key
    · have none : unclaimed.countP (·.chunk.key = key) = 0 :=
        List.countP_eq_zero.mpr fun dead member => by simpa [here] using nobody dead member
      simp [Grant.claimed?, renewed, none]
    · simp [Grant.key, here]

/-- Ids that are taken over are those of different chunks. -/
theorem nodup_claimed (hands : Hands matching live unclaimed grants)
    (distinct : (unclaimed.map (·.chunk.id)).Nodup) :
    ((grants.filter (·.claimed?.isSome)).map Grant.id).Nodup := by
  have ids : (grants.filter (·.claimed?.isSome)).map Grant.id =
      (grants.filterMap Grant.claimed?).map (·.chunk.id) := by
    clear hands
    induction grants with
    | nil => rfl
    | cons grant rest inductionHypothesis =>
      cases known : grant.claimed? with
      | none => simp [known, inductionHypothesis]
      | some dead => simp [known, inductionHypothesis, id_of_claimed known]
  rw [← List.append_nil grants] at hands
  obtain ⟨used, left, whole, _, _⟩ := hands.split
  have all := (whole.map (·.chunk.id)).nodup_iff.mpr distinct
  rw [List.map_append] at all
  exact ids ▸ (List.nodup_append.mp all).1

/-- Where the first dropped chunk is claimed, the constructs of a key claim its chunks in order. -/
theorem inOrder (hands : Hands matching live unclaimed grants) (strict : matching = .strictNameType)
    {key : String} {place : Nat} {grant : Grant} {dead : Invalidated}
    (granted : (grants.filter (·.key = key))[place]? = some grant)
    (listed : (unclaimed.filter (·.chunk.key = key))[place]? = some dead) :
    grant.claimed? = some dead := by
  induction hands generalizing place with
  | done => simp at granted
  | @claim live front back first construct grants sameKey earliest nearest rest inductionHypothesis =>
    simp only [List.filter_append, List.filter_cons, sameKey, Grant.key]
      at granted listed inductionHypothesis
    by_cases here : construct.key = key
    · have none : front.filter (·.chunk.key = key) = [] :=
        List.filter_eq_nil_iff.mpr fun other member => by
          simpa [here] using earliest strict other member
      simp only [here, decide_true, if_true, none, List.nil_append]
        at granted listed inductionHypothesis
      cases place with
      | zero =>
        rw [← Option.some.inj granted, ← Option.some.inj listed]
        rfl
      | succ place => exact inductionHypothesis granted listed
    · simp only [here, decide_false, Bool.false_eq_true, if_false] at granted listed
      exact inductionHypothesis granted listed
  | @renew live unclaimed construct source grants renewed nobody unused rest inductionHypothesis =>
    by_cases here : construct.key = key
    · have none : unclaimed.filter (·.chunk.key = key) = [] :=
        List.filter_eq_nil_iff.mpr fun other member => by simpa [here] using nobody other member
      rw [none] at listed
      cases listed
    · rw [List.filter_cons_of_neg (by simp [Grant.key, here])] at granted
      exact inductionHypothesis granted listed

/-- Where the nearest dropped chunk is claimed, none that is left is nearer. -/
theorem nearest {grant : Grant} (hands : Hands matching live unclaimed (before ++ grant :: after))
    (proximity : matching = .nameTypeProximity) {dead other : Invalidated}
    (claimed : grant.claimed? = some dead) (member : other ∈ unclaimed)
    (sameKey : other.chunk.key = grant.key)
    (unclaimed : ∀ earlier ∈ before, earlier.claimed? ≠ some other) :
    dead.distance grant.construct ≤ other.distance grant.construct := by
  obtain ⟨used, left, whole, _, later⟩ := hands.split
  have still : other ∈ left := by
    refine (List.mem_append.mp (whole.symm.subset member)).resolve_left fun early => ?_
    obtain ⟨earlier, among, taken⟩ := List.mem_filterMap.mp early
    exact unclaimed earlier among taken
  cases later with
  | claim _ _ nearest =>
    cases claimed
    exact nearest proximity other still sameKey
  | renew renewed => cases renewed.symm.trans claimed

end Hands

/-! ### The whole merge -/

/-- The constructs that are kept, in the order of their lines, got their ids as granted. -/
structure Outcome.Granted (outcome : Outcome) (survivors : List Chunk) (fresh : List FreshChunk)
    (grants : List Grant) : Prop where
  constructs : grants.map Grant.construct = FreshChunk.dropOverlapping fresh
  ordered : grants.Pairwise fun earlier later =>
    earlier.construct.span.startLine ≤ later.construct.span.startLine
  chunks : outcome.chunks.Perm (kept survivors fresh ++ grants.map Grant.chunk)
  reused : outcome.reused = grants.filterMap (·.source.reused?)
  allocated : outcome.allocated = grants.filterMap (·.source.allocated?)

/-- The construct got the id of a dropped chunk of its key. -/
def Grant.Inherits (pool : List Invalidated) (grant : Grant) : Prop :=
  ∃ dead ∈ pool, dead.chunk.key = grant.key ∧ dead.chunk.id = grant.id

instance (pool : List Invalidated) (grant : Grant) : Decidable (grant.Inherits pool) :=
  inferInstanceAs (Decidable (∃ dead ∈ pool, dead.chunk.key = grant.key ∧ dead.chunk.id = grant.id))

/-- The ids of the dropped chunks of a key pass to the constructs of that key. -/
structure Succeeds (matching : IdMatching) (pool : List Invalidated) (key : String)
    (grants : List Grant) : Prop where
  /-- As many as possible get the id of a dropped chunk. -/
  count : grants.countP (fun grant => grant.key = key ∧ grant.Inherits pool) =
    min (grants.countP (·.key = key)) (pool.countP (·.chunk.key = key))
  /-- No two of them get the same one. -/
  distinct : ((grants.filter fun grant => grant.key = key ∧ grant.Inherits pool).map Grant.id).Nodup
  /-- To get the id of a dropped chunk is to claim one. -/
  claimed : ∀ grant ∈ grants, grant.key = key →
    (grant.Inherits pool ↔ ∃ dead ∈ pool, dead.chunk.key = key ∧ grant.source = .claimed dead)
  /-- Chunks are claimed in the order of their lines, those of one line as they are listed. -/
  inOrder : matching = .strictNameType → ∀ (place : Nat) (grant : Grant) (dead : Invalidated),
    (grants.filter (·.key = key))[place]? = some grant →
    ((pool.mergeSort (·.mappedLine ≤ ·.mappedLine)).filter (·.chunk.key = key))[place]? = some dead →
    grant.source = .claimed dead
  /-- A chunk is claimed while no other that is left is nearer. -/
  nearest : matching = .nameTypeProximity → ∀ (before : List Grant) (grant : Grant)
    (after : List Grant), grants = before ++ grant :: after → grant.key = key →
    ∀ dead, grant.source = .claimed dead → ∀ other ∈ pool, other.chunk.key = key →
    (∀ earlier ∈ before, earlier.source ≠ .claimed other) →
    dead.distance grant.construct ≤ other.distance grant.construct
  /-- An id is brought back or given out once all chunks have been claimed. -/
  exhausted : ∀ (before : List Grant) (grant : Grant) (after : List Grant),
    grants = before ++ grant :: after → grant.key = key → ¬ grant.Inherits pool →
    ∀ dead ∈ pool, dead.chunk.key = key → ∃ earlier ∈ before, earlier.source = .claimed dead

/-- A merge hands over the ids of the dropped chunks, which it goes through in the order of their
lines. -/
theorem merge_hands (policy : Policy) (survivors : List Chunk) (fresh : List FreshChunk)
    (invalidated : List Invalidated) (lineage : Lineage) (changes : List LineChange) :
    ∃ grants,
      (merge policy survivors fresh invalidated lineage changes).Granted survivors fresh grants ∧
      Hands policy.matching ((kept survivors fresh).map Chunk.id)
        ((dropped survivors fresh invalidated).mergeSort (·.mappedLine ≤ ·.mappedLine)) grants := by
  obtain ⟨grants, constructs, hands, chunks, reused, allocated⟩ := foldl_step_hands policy
    (FreshChunk.dropOverlapping fresh) (opening survivors fresh invalidated lineage changes)
  refine ⟨grants, ⟨constructs, ?_, ?_, ?_, ?_⟩, hands⟩
  · have sorted : (FreshChunk.dropOverlapping fresh).Pairwise fun left right =>
        left.span.startLine ≤ right.span.startLine :=
      List.Pairwise.sublist (Span.sublist_dropOverlaps _ _)
        ((Span.widestFirst_mergeSort FreshChunk.span fresh).imp Span.startLine_le_of_widestFirst)
    rw [← constructs, List.pairwise_map] at sorted
    exact sorted
  · rw [merge_eq, closing, chunks, opening, List.append_nil, List.reverse_reverse]
    exact List.mergeSort_perm _ _
  · rw [merge_eq, closing, reused, opening, List.append_nil, List.reverse_reverse]
  · rw [merge_eq, closing, allocated, opening, List.append_nil, List.reverse_reverse]

theorem Hands.inherits_iff {matching : IdMatching} {live : List String} {pool : List Invalidated}
    {grants : List Grant}
    (hands : Hands matching live (pool.mergeSort (·.mappedLine ≤ ·.mappedLine)) grants)
    {grant : Grant} (member : grant ∈ grants) : grant.Inherits pool ↔ grant.claimed?.isSome := by
  rw [hands.claimed_iff member, Grant.Inherits]
  simp only [List.mem_mergeSort]

theorem Hands.succeeds {matching : IdMatching} {live : List String} {pool : List Invalidated}
    {grants : List Grant}
    (hands : Hands matching live (pool.mergeSort (·.mappedLine ≤ ·.mappedLine)) grants)
    (distinct : (pool.map (·.chunk.id)).Nodup) (key : String) :
    Succeeds matching pool key grants := by
  have sorted := List.mergeSort_perm pool fun left right =>
    decide (left.mappedLine ≤ right.mappedLine)
  refine ⟨?_, ?_, ?_, ?_, ?_, ?_⟩
  · have counted := hands.countP_claimed key
    rw [sorted.countP_eq] at counted
    rw [← counted]
    exact List.countP_congr fun grant member => by simp [hands.inherits_iff member]
  · have claims := hands.nodup_claimed ((sorted.map (·.chunk.id)).nodup_iff.mpr distinct)
    refine List.Nodup.sublist (List.Sublist.map _ ?_) claims
    rw [List.filter_congr (q := fun grant => decide (grant.key = key) && grant.claimed?.isSome)
      fun grant member => by simp [hands.inherits_iff member], ← List.filter_filter]
    exact List.filter_sublist
  · intro grant member sameKey
    rw [hands.inherits_iff member, Option.isSome_iff_exists]
    refine exists_congr fun dead => ⟨fun claimed => ?_, fun ⟨_, _, source⟩ => ?_⟩
    · obtain ⟨among, ofKey⟩ := hands.mem_of_claimed member claimed
      exact ⟨List.mem_mergeSort.mp among, ofKey.trans sameKey, Source.claimed?_eq_some.mp claimed⟩
    · exact Source.claimed?_eq_some.mpr source
  · intro strict place grant dead granted listed
    exact Source.claimed?_eq_some.mp (hands.inOrder strict granted listed)
  · rintro proximity before grant after rfl rfl dead source other member sameKey left
    exact hands.nearest proximity (Source.claimed?_eq_some.mpr source) (List.mem_mergeSort.mpr member)
      sameKey fun earlier among claimed => left earlier among (Source.claimed?_eq_some.mp claimed)
  · rintro before grant after rfl rfl disinherited dead member sameKey
    have renewed : grant.claimed? = none := by
      rw [hands.inherits_iff (by simp)] at disinherited
      simpa using disinherited
    obtain ⟨earlier, among, claimed⟩ :=
      hands.exhausted renewed (List.mem_mergeSort.mpr member) sameKey
    exact ⟨earlier, among, Source.claimed?_eq_some.mp claimed⟩

theorem nodup_dropped {survivors : List Chunk} (fresh : List FreshChunk)
    {invalidated : List Invalidated}
    (distinct : ((survivors ++ invalidated.map Invalidated.chunk).map Chunk.id).Nodup) :
    ((dropped survivors fresh invalidated).map (·.chunk.id)).Nodup := by
  have all := ((kept_dropped_perm survivors fresh invalidated).map Chunk.id).nodup_iff.mpr distinct
  rw [List.map_append, List.map_map] at all
  exact (List.nodup_append.mp all).2.1

/-- If the ids of the old chunks differ, each key keeps as many of them as it has constructs for. -/
theorem merge_succeeds (policy : Policy) {survivors : List Chunk} (fresh : List FreshChunk)
    {invalidated : List Invalidated} (lineage : Lineage) (changes : List LineChange)
    (distinct : ((survivors ++ invalidated.map Invalidated.chunk).map Chunk.id).Nodup) :
    ∃ grants,
      (merge policy survivors fresh invalidated lineage changes).Granted survivors fresh grants ∧
      ∀ key, Succeeds policy.matching (dropped survivors fresh invalidated) key grants := by
  obtain ⟨grants, granted, hands⟩ :=
    merge_hands policy survivors fresh invalidated lineage changes
  exact ⟨grants, granted, hands.succeeds (nodup_dropped fresh distinct)⟩

/-- Of two constructs of one name the first takes over the id of the survivor that it displaces, and
the second gets the next number. -/
theorem merge_succeeds_displaced :
    let construct (span : Span) : FreshChunk :=
      ⟨{ kind := .function, name := "a", span, rawConfidence := ⟨0⟩ }, "", ⟨0⟩⟩
    let survivors : List Chunk :=
      [{ id := "f::function::a", kind := .function, name := "a", span := ⟨2, 3⟩
         contentHash := "", confidence := ⟨0⟩ }]
    let fresh := [construct ⟨1, 2⟩, construct ⟨5, 6⟩]
    let outcome := merge ⟨"f", .strictNameType, 0⟩ survivors fresh [] {} []
    (∃ grants, outcome.Granted survivors fresh grants ∧
        ∀ key, Succeeds .strictNameType (dropped survivors fresh []) key grants) ∧
      outcome.reused = ["f::function::a"] ∧ outcome.allocated = ["f::function::a#1"] := by
  intro construct survivors fresh outcome
  have row : FreshChunk.dropOverlapping fresh = fresh :=
    FreshChunk.dropOverlapping_eq_self (by decide) (by decide)
  have displaced : displaces fresh = fun survivor => fresh.any (·.span.overlaps survivor.span) :=
    funext fun survivor => by rw [displaces, row]
  refine ⟨merge_succeeds ⟨"f", .strictNameType, 0⟩ fresh {} [] (by decide), ?_, ?_⟩
  · simp only [outcome, merge_eq, closing, opening, kept, dropped, displaced, row]
    decide +kernel
  · simp only [outcome, merge_eq, closing, opening, kept, dropped, displaced, row]
    decide +kernel

end Merge

end Chunking
