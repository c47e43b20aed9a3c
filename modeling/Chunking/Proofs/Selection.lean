/-
Nothing is lost in a merge and nothing is made up. A merge compares a construct
only with the last one that it kept, and a survivor only with the constructs that
are kept. Since constructs are gone through in the order of their lines this
amounts to comparing all with all: a construct is dropped only for one that is
kept and comes before it, and a survivor only for a construct that is kept. All
the others are among the chunks of the outcome, each of them once, and the ids
that are reported are the ids of the constructs.
-/

import Chunking.Proofs.MergeIds
import Mathlib.Data.List.Basic

namespace Chunking

theorem Span.isProper_iff {span : Span} :
    span.isProper = true ↔ 0 < span.startLine ∧ span.startLine ≤ span.endLine := by
  rw [isProper, Bool.and_eq_true, decide_eq_true_eq, decide_eq_true_eq]

theorem Span.le_of_isProper {span : Span} (proper : span.isProper = true) :
    span.startLine ≤ span.endLine :=
  (Span.isProper_iff.mp proper).2

/-! ### Going through items in order -/

section selection

variable {α : Type} {spanOf : α → Span}

/-- Items are gone through with those kept so far in hand: an item is kept just if it overlaps none
of them. -/
inductive Span.Selects (spanOf : α → Span) : (kept items selected : List α) → Prop where
  | done (kept : List α) : Selects spanOf kept [] kept
  | keep {kept rest selected : List α} {item : α}
      (apart : ∀ other ∈ kept, (spanOf other).overlaps (spanOf item) = false)
      (later : Selects spanOf (kept ++ [item]) rest selected) :
      Selects spanOf kept (item :: rest) selected
  | drop {kept rest selected : List α} {item other : α} (earlier : other ∈ kept)
      (overlap : (spanOf other).overlaps (spanOf item) = true)
      (later : Selects spanOf kept rest selected) : Selects spanOf kept (item :: rest) selected

/-- For sorted items the last one kept speaks for all that are kept. -/
theorem Span.selects_dropOverlaps {last : Option Span} {kept items : List α}
    (sorted : items.Pairwise fun left right => (spanOf left).startLine ≤ (spanOf right).startLine)
    (proper : ∀ item ∈ items, (spanOf item).startLine ≤ (spanOf item).endLine)
    (starts : ∀ other ∈ kept, ∀ item ∈ items, (spanOf other).startLine ≤ (spanOf item).startLine)
    (held : ∀ span ∈ last, ∃ other ∈ kept, spanOf other = span)
    (speaks : ∀ other ∈ kept, ∀ item ∈ items, (spanOf other).overlaps (spanOf item) = true →
      last.any (·.overlaps (spanOf item)) = true) :
    Span.Selects spanOf kept items (kept ++ Span.dropOverlaps spanOf last items) := by
  induction items generalizing last kept with
  | nil =>
    rw [Span.dropOverlaps, List.append_nil]
    exact .done kept
  | cons item rest inductionHypothesis =>
    rw [List.pairwise_cons] at sorted
    rw [List.forall_mem_cons] at proper
    unfold Span.dropOverlaps
    split
    next overlap =>
      cases last with
      | none => cases overlap
      | some span =>
      obtain ⟨other, member, rfl⟩ := held span rfl
      refine .drop member overlap (inductionHypothesis sorted.2 proper.2 ?_ held ?_)
      · exact fun other member later among =>
          starts other member later (List.mem_cons_of_mem _ among)
      · exact fun other member later among =>
          speaks other member later (List.mem_cons_of_mem _ among)
    next clear =>
      have apart : ∀ other ∈ kept, (spanOf other).overlaps (spanOf item) = false := by
        intro other member
        rw [Bool.eq_false_iff]
        exact fun overlap => clear (speaks other member item List.mem_cons_self overlap)
      rw [List.append_cons]
      refine .keep apart (inductionHypothesis sorted.2 proper.2 ?_ ?_ ?_)
      · intro other member later among
        rcases List.mem_append.mp member with earlier | new
        · exact starts other earlier later (List.mem_cons_of_mem _ among)
        · rw [List.mem_singleton.mp new]
          exact sorted.1 later among
      · rintro _ ⟨⟩
        exact ⟨item, List.mem_append_right _ List.mem_cons_self, rfl⟩
      · -- What was kept earlier ends before the item, which does not start after what follows.
        intro other member later among overlap
        rcases List.mem_append.mp member with earlier | new
        · have before : (spanOf other).Before (spanOf item) :=
            Span.before_of_overlaps proper.1 (starts other earlier item List.mem_cons_self)
              (apart other earlier)
          have behind : (spanOf other).Before (spanOf later) :=
            Nat.lt_of_lt_of_le before (sorted.1 later among)
          rw [behind.overlaps] at overlap
          cases overlap
        · rw [List.mem_singleton.mp new] at overlap
          exact overlap

/-- Dropping overlaps from items sorted by their lines is going through them in that order. -/
theorem Span.selects_of_sorted {items : List α}
    (sorted : items.Pairwise fun left right => (spanOf left).widestFirst (spanOf right) = true)
    (proper : ∀ item ∈ items, (spanOf item).startLine ≤ (spanOf item).endLine) :
    Span.Selects spanOf [] items (Span.dropOverlaps spanOf none items) := by
  refine Span.selects_dropOverlaps (sorted.imp Span.startLine_le_of_widestFirst) proper ?_ ?_ ?_
  · intro other member
    cases member
  · rintro _ ⟨⟩
  · intro other member
    cases member

theorem Span.Selects.subset {kept items selected : List α}
    (selects : Span.Selects spanOf kept items selected) : kept ⊆ selected := by
  induction selects with
  | done kept => exact List.Subset.refl kept
  | keep _ _ inductionHypothesis =>
    exact fun item member => inductionHypothesis (List.mem_append_left _ member)
  | drop _ _ _ inductionHypothesis => exact inductionHypothesis

/-- What is not kept is left over, and each item of it overlaps one that is kept and comes before
it. -/
theorem Span.Selects.leftover {kept items selected : List α}
    (selects : Span.Selects spanOf kept items selected)
    (sorted : (kept ++ items).Pairwise fun left right =>
      (spanOf left).widestFirst (spanOf right) = true) :
    ∃ left, (kept ++ items).Perm (selected ++ left) ∧ ∀ item ∈ left, ∃ other ∈ selected,
      (spanOf other).overlaps (spanOf item) = true ∧
        (spanOf other).widestFirst (spanOf item) = true := by
  induction selects with
  | done kept => exact ⟨[], .refl _, fun _ member => nomatch member⟩
  | @keep kept rest selected item apart later inductionHypothesis =>
    rw [List.append_cons] at sorted ⊢
    exact inductionHypothesis sorted
  | @drop kept rest selected item other earlier overlap later inductionHypothesis =>
    have before : (spanOf other).widestFirst (spanOf item) = true :=
      (List.pairwise_append.mp sorted).2.2 other earlier item List.mem_cons_self
    obtain ⟨left, whole, makesWay⟩ := inductionHypothesis
      (sorted.sublist (List.Sublist.append_left (List.sublist_cons_self item rest) kept))
    refine ⟨item :: left, ?_, List.forall_mem_cons.mpr
      ⟨⟨other, later.subset earlier, overlap, before⟩, makesWay⟩⟩
    exact List.perm_middle.trans ((whole.cons item).trans List.perm_middle.symm)

end selection

/-- The order in which constructs are gone through. -/
def FreshChunk.sorted (fresh : List FreshChunk) : List FreshChunk :=
  fresh.mergeSort fun left right => left.span.widestFirst right.span

theorem FreshChunk.selects_dropOverlapping {fresh : List FreshChunk}
    (proper : ∀ construct ∈ fresh, construct.span.startLine ≤ construct.span.endLine) :
    Span.Selects FreshChunk.span [] (sorted fresh) (dropOverlapping fresh) :=
  Span.selects_of_sorted (Span.widestFirst_mergeSort FreshChunk.span fresh) fun construct member =>
    proper construct (List.mem_mergeSort.mp member)

namespace Merge

/-! ### Reported ids -/

/-- The ids that are reported are those of the chunks made so far. -/
def Progress.Reports (progress : Progress) : Prop :=
  (progress.reused ++ progress.allocated).Perm (progress.chunks.map Chunk.id)

theorem Progress.Reports.step {progress : Progress} (reports : progress.Reports) (policy : Policy)
    (construct : FreshChunk) : (step policy progress construct).Reports := by
  rcases step_cases policy progress construct with ⟨dead, place, _, _, done⟩ |
    ⟨_, tombstone, place, _, _, done⟩ | ⟨_, id, after, _, _, _, done⟩
  · rw [done]
    exact reports.cons dead.chunk.id
  · rw [done]
    exact reports.cons tombstone.id
  · rw [done]
    exact List.perm_middle.trans (reports.cons id)

theorem Progress.Reports.foldl {progress : Progress} (reports : progress.Reports) (policy : Policy)
    (constructs : List FreshChunk) :
    (constructs.foldl (Merge.step policy) progress).Reports := by
  induction constructs generalizing progress with
  | nil => exact reports
  | cons construct rest inductionHypothesis =>
    exact inductionHypothesis (reports.step policy construct)

/-! ### The account of a merge -/

/-- The survivors that overlap none of some constructs. -/
def spared (survivors : List Chunk) (constructs : List FreshChunk) : List Chunk :=
  survivors.filter fun survivor => !constructs.any (·.span.overlaps survivor.span)

/-- What has become of survivors and constructs: `selected` are the constructs that were kept, and
`given` are the chunks that were made of them. -/
structure Outcome.Balances (outcome : Outcome) (survivors : List Chunk) (fresh : List FreshChunk)
    (selected : List FreshChunk) (given : List Chunk) : Prop where
  /-- A construct is dropped only for one that is kept and comes before it. -/
  selects : Span.Selects FreshChunk.span [] (FreshChunk.sorted fresh) selected
  /-- Each construct that is kept has become one chunk, which differs from it in an id alone. -/
  made : given.map Chunk.withoutId = selected.map (·.toChunk "")
  chunks : outcome.chunks.Perm (spared survivors selected ++ given)
  displaced : outcome.displaced + (spared survivors selected).length = survivors.length
  /-- Every chunk that was made has its id reported, once. -/
  reported : (outcome.reused ++ outcome.allocated).Perm (given.map Chunk.id)
  row : (survivors.Pairwise fun left right => left.span.overlaps right.span = false) →
    outcome.chunks.Pairwise fun left right =>
      left.span.startLine < right.span.startLine ∧ left.span.overlaps right.span = false

/-- Whatever overlaps what, a merge keeps every survivor and every construct that does not have to
make way for a construct that is kept. -/
theorem merge_balances (policy : Policy) {survivors : List Chunk} {fresh : List FreshChunk}
    (invalidated : List Invalidated) (lineage : Lineage) (changes : List LineChange)
    (properSurvivors : ∀ survivor ∈ survivors, survivor.span.isProper = true)
    (properFresh : ∀ construct ∈ fresh, construct.span.isProper = true) :
    ∃ selected given, (merge policy survivors fresh invalidated lineage changes).Balances
      survivors fresh selected given := by
  have oldProper := fun survivor member => Span.le_of_isProper (properSurvivors survivor member)
  have newProper := fun construct member => Span.le_of_isProper (properFresh construct member)
  obtain ⟨given, chunks, _, contents⟩ := foldl_step_chunks policy
    (FreshChunk.dropOverlapping fresh) (opening survivors fresh invalidated lineage changes)
  have made :
      (closing policy survivors fresh invalidated lineage changes).chunks = given.reverse := by
    rw [closing, chunks, opening, List.append_nil]
  have start : (opening survivors fresh invalidated lineage changes).Reports := .refl []
  have reports := start.foldl policy (FreshChunk.dropOverlapping fresh)
  refine ⟨FreshChunk.dropOverlapping fresh, given, FreshChunk.selects_dropOverlapping newProper,
    contents, ?_, ?_, ?_, ?_⟩
  · rw [merge_eq, made, List.reverse_reverse]
    exact List.mergeSort_perm _ _
  · rw [merge_eq]
    exact (List.length_eq_length_filter_add (displaces fresh)).symm
  · rw [merge_eq]
    refine (List.Perm.append (List.reverse_perm _) (List.reverse_perm _)).trans (reports.trans ?_)
    rw [chunks, opening, List.append_nil]
    exact (List.reverse_perm given).map Chunk.id
  · intro apart
    refine (merge_row apart oldProper newProper).imp_of_mem fun {left right} member _ before => ?_
    have proper : left.span.startLine ≤ left.span.endLine := by
      rcases mem_merge member with survivor | ⟨construct, among, same⟩
      · exact oldProper left survivor
      · have span : left.withoutId.span = construct.span := congrArg Chunk.span same
        exact span ▸ newProper construct among
    exact ⟨Nat.lt_of_le_of_lt proper before, before.overlaps⟩

/-- A construct displaces one of two survivors that are not in order, and takes over its id. -/
theorem merge_balances_displaced :
    let chunk (id name : String) (span : Span) : Chunk :=
      { id, kind := .function, name, span, contentHash := "", confidence := ⟨0⟩ }
    let construct (name : String) (span : Span) : FreshChunk :=
      ⟨{ kind := .function, name, span, rawConfidence := ⟨0⟩ }, "", ⟨0⟩⟩
    let survivors := [chunk "f::function::b" "b" ⟨7, 8⟩, chunk "f::function::a" "a" ⟨1, 3⟩]
    let fresh := [construct "a" ⟨2, 4⟩]
    let outcome := merge ⟨"f", .strictNameType, 0⟩ survivors fresh [] {} []
    (∃ selected given, outcome.Balances survivors fresh selected given) ∧
      outcome.displaced = 1 ∧ outcome.reused = ["f::function::a"] := by
  intro chunk construct survivors fresh outcome
  exact ⟨merge_balances _ [] {} [] (by decide) (by decide), by decide +kernel, by decide +kernel⟩

end Merge

end Chunking
