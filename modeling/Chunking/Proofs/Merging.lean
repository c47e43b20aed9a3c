/-
What a merge leaves of its survivors and constructs. Only ids are decided one
construct after another; everything else about the outcome is known beforehand:
it consists of the survivors that no construct overlaps and of the constructs
that overlap no earlier one, in the order of their lines.
-/

import Chunking.Merge
import Chunking.Proofs.Overlaps

namespace Chunking

/-- Everything about a chunk except its id. -/
def Chunk.withoutId (chunk : Chunk) : Chunk :=
  { chunk with id := "" }

theorem FreshChunk.toChunk_withoutId (fresh : FreshChunk) (id : String) :
    (fresh.toChunk id).withoutId = fresh.toChunk "" := rfl

theorem Invalidated.map_chunk_atOwnPlace (chunks : List Chunk) :
    (chunks.map atOwnPlace).map Invalidated.chunk = chunks := by
  rw [List.map_map]
  exact List.map_id _

namespace FreshChunk

/-! ### Constructs that overlap no earlier one -/

theorem mem_of_mem_dropOverlapping {fresh : List FreshChunk} {construct : FreshChunk}
    (member : construct ∈ dropOverlapping fresh) : construct ∈ fresh :=
  List.mem_mergeSort.mp ((Span.sublist_dropOverlaps _ _).subset member)

theorem before_dropOverlapping {fresh : List FreshChunk}
    (proper : ∀ construct ∈ fresh, construct.span.startLine ≤ construct.span.endLine) :
    (dropOverlapping fresh).Pairwise fun left right => left.span.Before right.span := by
  have nothing : ∀ span ∈ (none : Option Span),
      ∀ construct ∈ fresh.mergeSort fun left right => left.span.widestFirst right.span,
        span.startLine ≤ construct.span.startLine := by simp
  exact (Span.before_dropOverlaps
    (fun construct member => proper construct (List.mem_mergeSort.mp member))
    ((Span.widestFirst_mergeSort FreshChunk.span fresh).imp Span.startLine_le_of_widestFirst)
    nothing).2

/-- Constructs in a row are all kept, in their order. -/
theorem dropOverlapping_eq_self {fresh : List FreshChunk}
    (proper : ∀ construct ∈ fresh, construct.span.startLine ≤ construct.span.endLine)
    (row : fresh.Pairwise fun left right => left.span.Before right.span) :
    dropOverlapping fresh = fresh := by
  have sorted : fresh.Pairwise fun left right => left.span.widestFirst right.span = true :=
    row.imp_of_mem fun {left right} member _ before => before.widestFirst (proper left member)
  rw [dropOverlapping, List.mergeSort_of_pairwise sorted]
  exact Span.dropOverlaps_eq_self (by simp) row

end FreshChunk

namespace Merge

/-! ### The parts of a merge -/

/-- Whether one of the constructs takes the place of a survivor. -/
def displaces (fresh : List FreshChunk) (survivor : Chunk) : Bool :=
  (FreshChunk.dropOverlapping fresh).any (·.span.overlaps survivor.span)

/-- The survivors that are kept. -/
def kept (survivors : List Chunk) (fresh : List FreshChunk) : List Chunk :=
  survivors.filter (!displaces fresh ·)

/-- The chunks of the old version whose ids are to be had. -/
def dropped (survivors : List Chunk) (fresh : List FreshChunk) (invalidated : List Invalidated) :
    List Invalidated :=
  invalidated ++ (survivors.filter (displaces fresh)).map Invalidated.atOwnPlace

/-- The state before the first construct. -/
def opening (survivors : List Chunk) (fresh : List FreshChunk) (invalidated : List Invalidated)
    (lineage : Lineage) (changes : List LineChange) : Progress :=
  { unclaimed := (dropped survivors fresh invalidated).mergeSort fun left right =>
      left.mappedLine ≤ right.mappedLine
    lineage := (kept survivors fresh
      ++ (dropped survivors fresh invalidated).map Invalidated.chunk).foldl Lineage.observe
        (lineage.shift changes)
    live := (kept survivors fresh).map Chunk.id }

/-- The state behind the last construct. -/
def closing (policy : Policy) (survivors : List Chunk) (fresh : List FreshChunk)
    (invalidated : List Invalidated) (lineage : Lineage) (changes : List LineChange) : Progress :=
  (FreshChunk.dropOverlapping fresh).foldl (step policy)
    (opening survivors fresh invalidated lineage changes)

variable (policy : Policy) (survivors : List Chunk) (fresh : List FreshChunk)
  (invalidated : List Invalidated) (lineage : Lineage) (changes : List LineChange)

theorem merge_eq : merge policy survivors fresh invalidated lineage changes =
    { chunks := (kept survivors fresh
        ++ (closing policy survivors fresh invalidated lineage changes).chunks.reverse).mergeSort
          fun left right => left.span.startLine ≤ right.span.startLine
      lineage := buryUnclaimed (closing policy survivors fresh invalidated lineage changes)
      reused := (closing policy survivors fresh invalidated lineage changes).reused.reverse
      allocated := (closing policy survivors fresh invalidated lineage changes).allocated.reverse
      displaced := (survivors.filter (displaces fresh)).length } := rfl

/-! ### What a construct becomes -/

/-- Whatever id a construct gets, it becomes a chunk with that id, which is live from then on. -/
theorem step_chunks (progress : Progress) (construct : FreshChunk) :
    ∃ id, (step policy progress construct).chunks = construct.toChunk id :: progress.chunks ∧
      (step policy progress construct).live = id :: progress.live := by
  unfold step
  split
  · exact ⟨_, rfl, rfl⟩
  · split <;> exact ⟨_, rfl, rfl⟩

theorem foldl_step_chunks (constructs : List FreshChunk) (progress : Progress) :
    ∃ given : List Chunk,
      (constructs.foldl (step policy) progress).chunks = given.reverse ++ progress.chunks ∧
      (constructs.foldl (step policy) progress).live =
        (given.map Chunk.id).reverse ++ progress.live ∧
      given.map Chunk.withoutId = constructs.map (·.toChunk "") := by
  induction constructs generalizing progress with
  | nil => exact ⟨[], rfl, rfl, rfl⟩
  | cons construct rest inductionHypothesis =>
    obtain ⟨id, chunks, live⟩ := step_chunks policy progress construct
    obtain ⟨given, laterChunks, laterLive, contents⟩ :=
      inductionHypothesis (step policy progress construct)
    refine ⟨construct.toChunk id :: given, ?_, ?_, ?_⟩
    · rw [List.foldl_cons, laterChunks, chunks, List.reverse_cons, List.append_assoc]
      rfl
    · rw [List.foldl_cons, laterLive, live, List.map_cons, List.reverse_cons, List.append_assoc]
      rfl
    · rw [List.map_cons, List.map_cons, contents, FreshChunk.toChunk_withoutId]

theorem exists_construct {given : List Chunk} {constructs : List FreshChunk}
    (contents : given.map Chunk.withoutId = constructs.map (·.toChunk "")) {chunk : Chunk}
    (member : chunk ∈ given) : ∃ construct ∈ constructs, construct.toChunk "" = chunk.withoutId := by
  have listed : chunk.withoutId ∈ given.map Chunk.withoutId := List.mem_map_of_mem member
  rw [contents] at listed
  exact List.mem_map.mp listed

/-- Chunks with the contents of constructs in a row are in a row. -/
theorem before_of_contents {given : List Chunk} {constructs : List FreshChunk}
    (contents : given.map Chunk.withoutId = constructs.map (·.toChunk ""))
    (row : constructs.Pairwise fun left right => left.span.Before right.span) :
    given.Pairwise fun left right => left.span.Before right.span := by
  have mapped : (constructs.map (·.toChunk "")).Pairwise
      fun left right => left.span.Before right.span := List.pairwise_map.mpr row
  rw [← contents, List.pairwise_map] at mapped
  exact mapped

/-- The chunks of a merge are the survivors that are kept and one chunk for each construct that
overlaps no earlier one. -/
theorem merge_chunks : ∃ given : List Chunk,
    given.map Chunk.withoutId = (FreshChunk.dropOverlapping fresh).map (·.toChunk "") ∧
    (closing policy survivors fresh invalidated lineage changes).live =
      (given.map Chunk.id).reverse ++ (kept survivors fresh).map Chunk.id ∧
    (merge policy survivors fresh invalidated lineage changes).chunks =
      (kept survivors fresh ++ given).mergeSort fun left right =>
        left.span.startLine ≤ right.span.startLine := by
  obtain ⟨given, chunks, live, contents⟩ := foldl_step_chunks policy
    (FreshChunk.dropOverlapping fresh) (opening survivors fresh invalidated lineage changes)
  refine ⟨given, contents, live, ?_⟩
  rw [merge_eq]
  simp only
  rw [closing, chunks, opening, List.append_nil, List.reverse_reverse]

variable {policy survivors fresh invalidated lineage changes}

/-- A chunk of a merge is a survivor or has the contents of a construct. -/
theorem mem_merge {chunk : Chunk}
    (member : chunk ∈ (merge policy survivors fresh invalidated lineage changes).chunks) :
    chunk ∈ survivors ∨ ∃ construct ∈ fresh, chunk.withoutId = construct.toChunk "" := by
  obtain ⟨given, contents, _, chunks⟩ :=
    merge_chunks policy survivors fresh invalidated lineage changes
  rw [chunks, List.mem_mergeSort, List.mem_append] at member
  rcases member with survivor | new
  · exact Or.inl (List.mem_filter.mp survivor).1
  · obtain ⟨construct, among, same⟩ := exists_construct contents new
    exact Or.inr ⟨construct, FreshChunk.mem_of_mem_dropOverlapping among, same.symm⟩

/-- Without survivors the chunks of a merge are the constructs that overlap no earlier one. -/
theorem merge_contents
    (newProper : ∀ construct ∈ fresh, construct.span.startLine ≤ construct.span.endLine) :
    (merge policy [] fresh invalidated lineage changes).chunks.map Chunk.withoutId =
      (FreshChunk.dropOverlapping fresh).map (·.toChunk "") := by
  obtain ⟨given, contents, _, chunks⟩ := merge_chunks policy [] fresh invalidated lineage changes
  have row := before_of_contents contents (FreshChunk.before_dropOverlapping newProper)
  have proper : ∀ chunk ∈ given, chunk.span.startLine ≤ chunk.span.endLine := by
    intro chunk member
    obtain ⟨construct, among, same⟩ := exists_construct contents member
    have span : construct.span = chunk.span := congrArg Chunk.span same
    exact span ▸ newProper construct (FreshChunk.mem_of_mem_dropOverlapping among)
  have inOrder : given.Pairwise fun left right => left.span.startLine ≤ right.span.startLine :=
    row.imp_of_mem fun {left right} member _ before => Nat.le_of_lt
      (before.startLine_lt (proper left member))
  rw [chunks, kept, List.filter_nil, List.nil_append,
    List.mergeSort_of_pairwise (inOrder.imp decide_eq_true), contents]

/-- Survivors that do not overlap and constructs wherever they are become chunks in a row. -/
theorem merge_row
    (apart : survivors.Pairwise fun left right => left.span.overlaps right.span = false)
    (oldProper : ∀ chunk ∈ survivors, chunk.span.startLine ≤ chunk.span.endLine)
    (newProper : ∀ construct ∈ fresh, construct.span.startLine ≤ construct.span.endLine) :
    (merge policy survivors fresh invalidated lineage changes).chunks.Pairwise
      fun left right => left.span.Before right.span := by
  obtain ⟨given, contents, _, chunks⟩ :=
    merge_chunks policy survivors fresh invalidated lineage changes
  have constructOf : ∀ chunk ∈ given, ∃ construct ∈ FreshChunk.dropOverlapping fresh,
      construct.span = chunk.span := by
    intro chunk member
    obtain ⟨construct, among, same⟩ := exists_construct contents member
    exact ⟨construct, among, congrArg Chunk.span same⟩
  have givenRow : given.Pairwise fun left right => left.span.Before right.span :=
    before_of_contents contents (FreshChunk.before_dropOverlapping newProper)
  rw [chunks]
  refine Span.before_mergeSort (fun chunk member => ?_) (List.pairwise_append.mpr
    ⟨apart.sublist List.filter_sublist, givenRow.imp Span.Before.overlaps,
      fun chunk member new among => ?_⟩)
  · rcases List.mem_append.mp member with survivor | new
    · exact oldProper chunk (List.mem_filter.mp survivor).1
    · obtain ⟨construct, among, same⟩ := constructOf chunk new
      exact same ▸ newProper construct (FreshChunk.mem_of_mem_dropOverlapping among)
  · obtain ⟨construct, listed, same⟩ := constructOf new among
    have spared := (List.mem_filter.mp member).2
    simp only [displaces, Bool.not_eq_true', List.any_eq_false] at spared
    rw [← same, Span.overlaps_comm]
    exact Bool.eq_false_iff.mpr (spared construct listed)

end Merge

end Chunking
