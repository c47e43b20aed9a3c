/-
Settled drafts. Settling goes through drafts in the order of their lines, the wider
one first, and compares each of them only with the last one that was kept. All the
same no two of those that it keeps overlap, and whatever else has lines makes way
for a draft that is kept and comes before it in that order. Drafts are told apart
by their lines alone: the order in which they are given matters only where several
have the same lines, and then the first of these is meant. The constructs of a
merge are selected in just this way.
-/

import Chunking.Proofs.Selection
import Mathlib.Data.List.Find
import Mathlib.Data.List.Nodup

namespace Chunking

/-! ### The order of going through -/

theorem Span.widestFirst_antisymm {left right : Span} (before : left.widestFirst right = true)
    (behind : right.widestFirst left = true) : left = right := by
  obtain ⟨leftStart, leftEnd⟩ := left
  obtain ⟨rightStart, rightEnd⟩ := right
  simp only [widestFirst, Bool.or_eq_true, decide_eq_true_eq, Bool.and_eq_true, beq_iff_eq,
    Span.mk.injEq] at before behind ⊢
  omega

section order

variable {α β : Type} {spanOf : α → Span}

/-- Items with different spans are gone through in the same order, however they are given. -/
theorem Span.mergeSort_eq_of_perm {first second : List α} (shuffled : first.Perm second)
    (different : second.Pairwise fun left right => spanOf left ≠ spanOf right) :
    first.mergeSort (fun left right => (spanOf left).widestFirst (spanOf right)) =
      second.mergeSort fun left right => (spanOf left).widestFirst (spanOf right) := by
  have distinct : (second.map spanOf).Nodup := List.pairwise_map.mpr different
  refine List.Perm.eq_of_pairwise (fun left right leftMember rightMember before behind => ?_)
    (Span.widestFirst_mergeSort spanOf first) (Span.widestFirst_mergeSort spanOf second)
    ((List.mergeSort_perm _ _).trans (shuffled.trans (List.mergeSort_perm _ _).symm))
  refine List.inj_on_of_nodup_map distinct ?_ (List.mem_mergeSort.mp rightMember)
    (Span.widestFirst_antisymm before behind)
  exact shuffled.mem_iff.mp (List.mem_mergeSort.mp leftMember)

/-- Of items with the same span the first one that is given comes first. -/
theorem Span.find?_mergeSort (items : List α) (span : Span) :
    (items.mergeSort fun left right => (spanOf left).widestFirst (spanOf right)).find?
        (spanOf · = span) = items.find? (spanOf · = span) := by
  have together : (items.filter (spanOf · = span)).Pairwise
      fun left right => (spanOf left).widestFirst (spanOf right) = true := by
    refine List.pairwise_of_forall_mem_list fun left leftMember right rightMember => ?_
    have leftSpan := of_decide_eq_true (List.mem_filter.mp leftMember).2
    have rightSpan := of_decide_eq_true (List.mem_filter.mp rightMember).2
    rw [leftSpan, rightSpan]
    simpa using Span.widestFirst_total span span
  have kept := (List.sublist_mergeSort
    (fun first second third => Span.widestFirst_trans (spanOf first) (spanOf second) (spanOf third))
    (fun left right => Span.widestFirst_total (spanOf left) (spanOf right)) together
    List.filter_sublist).filter (spanOf · = span)
  rw [List.filter_filter] at kept
  simp only [Bool.and_self] at kept
  have same := kept.eq_of_length
    ((List.mergeSort_perm items _).filter (spanOf · = span)).length_eq.symm
  rw [← List.head?_filter, ← List.head?_filter, same]

/-! ### What is kept -/

/-- What is kept of items with the same span is the first of them. -/
theorem Span.find?_of_mem_dropOverlaps {last : Option Span} {items : List α} {item : α}
    (proper : ∀ item ∈ items, (spanOf item).startLine ≤ (spanOf item).endLine)
    (sorted : items.Pairwise fun left right => (spanOf left).startLine ≤ (spanOf right).startLine)
    (behind : ∀ span ∈ last, ∀ item ∈ items, span.startLine ≤ (spanOf item).startLine)
    (member : item ∈ Span.dropOverlaps spanOf last items) :
    items.find? (spanOf · = spanOf item) = some item := by
  induction items generalizing last with
  | nil => cases member
  | cons head rest inductionHypothesis =>
    have row := Span.before_dropOverlaps proper sorted behind
    rw [List.pairwise_cons] at sorted
    rw [List.forall_mem_cons] at proper
    unfold Span.dropOverlaps at member row
    split at member
    next overlap =>
      -- The head overlaps the last span that was kept, and nothing that is kept later does.
      rw [if_pos overlap] at row
      have other : spanOf head ≠ spanOf item := by
        intro same
        obtain ⟨span, isLast, overlaps⟩ := Option.any_eq_true _ _ |>.mp overlap
        rw [same, (row.1 span isLast item member).overlaps] at overlaps
        cases overlaps
      rw [List.find?_cons_of_neg (by simpa using other)]
      exact inductionHypothesis proper.2 sorted.2
        (fun span isLast later among => behind span isLast later (List.mem_cons_of_mem _ among))
        member
    next clear =>
      rw [if_neg clear, List.pairwise_cons] at row
      rcases List.mem_cons.mp member with rfl | later
      · rw [List.find?_cons_of_pos (by simp)]
      · have other : spanOf head ≠ spanOf item := by
          intro same
          have before := row.2.1 item later
          rw [← same, Span.Before] at before
          exact absurd proper.1 (Nat.not_le_of_lt before)
        rw [List.find?_cons_of_neg (by simpa using other)]
        exact inductionHypothesis proper.2 sorted.2 (by simpa using sorted.1) later

/-- Whether items are dropped depends on their spans alone. -/
theorem Span.map_dropOverlaps {spanOf' : β → Span} {form : α → β}
    (same : ∀ item, spanOf' (form item) = spanOf item) (last : Option Span) (items : List α) :
    (Span.dropOverlaps spanOf last items).map form =
      Span.dropOverlaps spanOf' last (items.map form) := by
  induction items generalizing last with
  | nil => rfl
  | cons item rest inductionHypothesis =>
    rw [List.map_cons, Span.dropOverlaps, Span.dropOverlaps, same]
    split
    · exact inductionHypothesis last
    · rw [List.map_cons, inductionHypothesis]

end order

/-! ### Settling -/

section settling

variable (drafts : List Draft)

/-- The drafts with lines, in the order in which they are gone through. -/
def eligible : List Draft :=
  (drafts.mergeSort fun left right => left.span.widestFirst right.span).filter (·.span.isProper)

theorem settle_eq : settle drafts = Span.dropOverlaps Draft.span none (eligible drafts) := rfl

theorem eligible_proper : ∀ draft ∈ eligible drafts, draft.span.isProper = true :=
  fun _ member => (List.mem_filter.mp member).2

theorem eligible_sorted : (eligible drafts).Pairwise
    fun left right => left.span.widestFirst right.span = true :=
  (Span.widestFirst_mergeSort Draft.span drafts).sublist List.filter_sublist

theorem settle_proper : ∀ draft ∈ settle drafts, draft.span.isProper = true :=
  fun draft member => eligible_proper drafts draft ((Span.sublist_dropOverlaps _ _).subset member)

theorem settle_row : (settle drafts).Pairwise fun left right => left.span.Before right.span :=
  (Span.before_dropOverlaps
    (fun draft member => Span.le_of_isProper (eligible_proper drafts draft member))
    ((eligible_sorted drafts).imp Span.startLine_le_of_widestFirst) (by simp)).2

/-- Drafts in a row are settled already. -/
theorem settle_eq_self {drafts : List Draft} (proper : ∀ draft ∈ drafts, draft.span.isProper = true)
    (row : drafts.Pairwise fun left right => left.span.Before right.span) :
    settle drafts = drafts := by
  have sorted : drafts.Pairwise fun left right => left.span.widestFirst right.span = true :=
    row.imp_of_mem fun {left right} member _ before =>
      before.widestFirst (Span.le_of_isProper (proper left member))
  have all : eligible drafts = drafts := by
    rw [eligible, List.mergeSort_of_pairwise sorted, List.filter_eq_self]
    exact proper
  rw [settle_eq, all]
  exact Span.dropOverlaps_eq_self (by simp) row

/-- The drafts are those that settling keeps, those without lines, and those that make way for one
that is kept and comes before them. -/
theorem settle_leftover : ∃ left, drafts.Perm (settle drafts ++ left) ∧
    ∀ draft ∈ left, draft.span.isProper = true → ∃ other ∈ settle drafts,
      other.span.overlaps draft.span = true ∧ other.span.widestFirst draft.span = true := by
  have selects := Span.selects_of_sorted (eligible_sorted drafts)
    fun draft member => Span.le_of_isProper (eligible_proper drafts draft member)
  obtain ⟨left, whole, makesWay⟩ := selects.leftover (eligible_sorted drafts)
  refine ⟨left ++ (drafts.mergeSort fun left right => left.span.widestFirst right.span).filter
    (!·.span.isProper), ?_, fun draft member proper => ?_⟩
  · rw [← List.append_assoc]
    refine (List.mergeSort_perm drafts fun left right =>
      left.span.widestFirst right.span).symm.trans ?_
    exact (List.filter_append_perm (·.span.isProper) _).symm.trans (whole.append_right _)
  · rcases List.mem_append.mp member with dropped | improper
    · exact makesWay draft dropped
    · simp [proper] at improper

/-- Of drafts with the same lines none but the first is kept. -/
theorem settle_first {draft : Draft} (member : draft ∈ settle drafts) :
    drafts.find? (·.span = draft.span) = some draft := by
  have found := Span.find?_of_mem_dropOverlaps
    (fun draft member => Span.le_of_isProper (eligible_proper drafts draft member))
    ((eligible_sorted drafts).imp Span.startLine_le_of_widestFirst) (by simp) member
  rw [eligible, List.find?_filter] at found
  rw [← Span.find?_mergeSort, ← found]
  refine List.find?_congr fun other _ => ?_
  have here := settle_proper drafts draft member
  by_cases same : other.span = draft.span
  · simp [same, here]
  · simp [same]

/-- The drafts of constructs that have lines are settled when overlapping constructs are dropped. -/
theorem map_draft_dropOverlapping {fresh : List FreshChunk}
    (proper : ∀ construct ∈ fresh, construct.span.isProper = true) :
    (FreshChunk.dropOverlapping fresh).map FreshChunk.draft =
      settle (fresh.map FreshChunk.draft) := by
  have sorted : eligible (fresh.map FreshChunk.draft) =
      (fresh.mergeSort fun left right => left.span.widestFirst right.span).map FreshChunk.draft := by
    have mapped : (fresh.mergeSort fun left right => left.span.widestFirst right.span).map
        FreshChunk.draft = (fresh.map FreshChunk.draft).mergeSort
          fun left right => left.span.widestFirst right.span :=
      List.map_mergeSort fun _ _ _ _ => rfl
    rw [eligible, ← mapped]
    refine List.filter_eq_self.mpr fun draft member => ?_
    obtain ⟨construct, among, rfl⟩ := List.mem_map.mp member
    exact proper construct (List.mem_mergeSort.mp among)
  rw [settle_eq, sorted]
  exact Span.map_dropOverlaps (fun _ => rfl) _ _

end settling

/-- What settling keeps of drafts. -/
structure Settles (drafts kept : List Draft) : Prop where
  increasing : kept.Pairwise fun left right => left.span.startLine < right.span.startLine
  apart : kept.Pairwise fun left right => left.span.overlaps right.span = false
  proper : ∀ draft ∈ kept, 0 < draft.span.startLine ∧ draft.span.startLine ≤ draft.span.endLine
  /-- Each draft is kept as it is or left over, and one that is left over although it has lines
  overlaps a draft that is kept and starts no later, nor ends earlier if it starts on its line. -/
  accounted : ∃ left, drafts.Perm (kept ++ left) ∧ ∀ draft ∈ left,
    0 < draft.span.startLine → draft.span.startLine ≤ draft.span.endLine → ∃ other ∈ kept,
      other.span.overlaps draft.span = true ∧ other.span.startLine ≤ draft.span.startLine ∧
        (other.span.startLine = draft.span.startLine → draft.span.endLine ≤ other.span.endLine)
  first : ∀ draft ∈ kept, drafts.find? (·.span = draft.span) = some draft
  again : settle kept = kept
  /-- Only where several drafts have the same lines does it matter how drafts are given. -/
  shuffled : ∀ others, others.Perm drafts →
    (drafts.Pairwise fun left right => left.span ≠ right.span) → settle others = kept
  /-- Constructs of a merge with these drafts are kept just if their drafts are. -/
  merged : ∀ fresh : List FreshChunk, fresh.map FreshChunk.draft = drafts →
    (∀ draft ∈ drafts, 0 < draft.span.startLine ∧ draft.span.startLine ≤ draft.span.endLine) →
    (FreshChunk.dropOverlapping fresh).map FreshChunk.draft = kept

/-- Settling selects drafts by their lines, and once is enough. -/
theorem settle_settles (drafts : List Draft) : Settles drafts (settle drafts) := by
  have proper := settle_proper drafts
  have row := settle_row drafts
  refine ⟨?_, row.imp Span.Before.overlaps,
    fun draft member => Span.isProper_iff.mp (proper draft member), ?_,
    fun draft => settle_first drafts, settle_eq_self proper row,
    fun others same different => ?_, ?_⟩
  · exact row.imp_of_mem fun {left right} member _ before =>
      before.startLine_lt (Span.le_of_isProper (proper left member))
  · obtain ⟨left, whole, makesWay⟩ := settle_leftover drafts
    refine ⟨left, whole, fun draft member starts ends => ?_⟩
    obtain ⟨other, among, overlap, before⟩ := makesWay draft member
      (Span.isProper_iff.mpr ⟨starts, ends⟩)
    simp only [Span.widestFirst, Bool.or_eq_true, decide_eq_true_eq, Bool.and_eq_true, beq_iff_eq]
      at before
    exact ⟨other, among, overlap, by omega, by omega⟩
  · rw [settle_eq, settle_eq, eligible, eligible, Span.mergeSort_eq_of_perm same different]
  · rintro fresh rfl valid
    exact map_draft_dropOverlapping fun construct member =>
      Span.isProper_iff.mpr (valid construct.draft (List.mem_map_of_mem member))

end Chunking
