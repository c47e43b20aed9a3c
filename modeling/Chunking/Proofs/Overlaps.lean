/-
Items with spans in a row. Items are in a row if each one ends before the next
one starts. Sorting items that do not overlap puts them in a row, dropping
overlaps from sorted items leaves a row, and neither changes items that are in a
row already. A row is determined by the items in it.
-/

import Chunking.Draft
import Mathlib.Data.List.Pairwise

namespace Chunking

namespace Span

/-- A span with at least one line, all of them among the first `lineCount` lines. -/
def Fits (lineCount : Nat) (span : Span) : Prop :=
  1 ≤ span.startLine ∧ span.startLine ≤ span.endLine ∧ span.endLine ≤ lineCount

instance (lineCount : Nat) (span : Span) : Decidable (span.Fits lineCount) :=
  inferInstanceAs (Decidable (_ ∧ _))

theorem Fits.size_pos {lineCount : Nat} {span : Span} (fits : span.Fits lineCount) :
    0 < span.size :=
  Nat.sub_pos_of_lt (Nat.lt_succ_of_le fits.2.1)

/-- The lines of a span, counted from zero, make it up again. -/
theorem Fits.mk_eq {lineCount : Nat} {span : Span} (fits : span.Fits lineCount) :
    Span.mk (span.startLine - 1 + 1) (span.startLine - 1 + span.size) = span := by
  obtain ⟨positive, proper, _⟩ := fits
  rw [Nat.sub_add_cancel positive, size,
    show span.startLine - 1 + (span.endLine + 1 - span.startLine) = span.endLine by omega]

/-- One span ends before another starts. -/
def Before (left right : Span) : Prop :=
  left.endLine < right.startLine

instance (left right : Span) : Decidable (left.Before right) :=
  inferInstanceAs (Decidable (_ < _))

theorem overlaps_eq_false {left right : Span} :
    left.overlaps right = false ↔ right.endLine < left.startLine ∨ left.endLine < right.startLine := by
  simp only [overlaps, Bool.and_eq_false_iff, decide_eq_false_iff_not, Nat.not_le]

theorem overlaps_comm (left right : Span) : left.overlaps right = right.overlaps left := by
  simp only [overlaps, Bool.and_comm]

theorem Before.overlaps {left right : Span} (before : left.Before right) :
    left.overlaps right = false :=
  overlaps_eq_false.mpr (Or.inr before)

theorem Before.startLine_lt {left right : Span} (before : left.Before right)
    (proper : left.startLine ≤ left.endLine) : left.startLine < right.startLine :=
  Nat.lt_of_le_of_lt proper before

/-- Of two spans that do not overlap, the one that does not start later ends before the other. -/
theorem before_of_overlaps {left right : Span} (proper : right.startLine ≤ right.endLine)
    (starts : left.startLine ≤ right.startLine) (apart : left.overlaps right = false) :
    left.Before right := by
  rcases overlaps_eq_false.mp apart with behind | before
  · omega
  · exact before

theorem startLine_le_of_widestFirst {left right : Span} (ordered : left.widestFirst right = true) :
    left.startLine ≤ right.startLine := by
  simp only [widestFirst, Bool.or_eq_true, decide_eq_true_eq, Bool.and_eq_true, beq_iff_eq] at ordered
  omega

theorem widestFirst_trans (first second third : Span) (left : first.widestFirst second = true)
    (right : second.widestFirst third = true) : first.widestFirst third = true := by
  simp only [widestFirst, Bool.or_eq_true, decide_eq_true_eq, Bool.and_eq_true, beq_iff_eq]
    at left right ⊢
  omega

theorem widestFirst_total (left right : Span) :
    (left.widestFirst right || right.widestFirst left) = true := by
  simp only [widestFirst, Bool.or_eq_true, decide_eq_true_eq, Bool.and_eq_true, beq_iff_eq]
  omega

theorem Before.widestFirst {left right : Span} (proper : left.startLine ≤ left.endLine)
    (before : left.Before right) : left.widestFirst right = true := by
  have starts : left.startLine < right.startLine := Nat.lt_of_le_of_lt proper before
  simp only [Span.widestFirst, decide_eq_true starts, Bool.true_or]

end Span

section rows

variable {α : Type} {spanOf : α → Span}

/-! ### Dropping overlaps -/

theorem Span.sublist_dropOverlaps (last : Option Span) (items : List α) :
    (Span.dropOverlaps spanOf last items).Sublist items := by
  induction items generalizing last with
  | nil => exact .slnil
  | cons item rest inductionHypothesis =>
    unfold Span.dropOverlaps
    split
    · exact (inductionHypothesis last).cons item
    · exact (inductionHypothesis _).cons_cons item

/-- Sorted items are in a row behind the last one kept once overlaps are dropped. -/
theorem Span.before_dropOverlaps {last : Option Span} {items : List α}
    (proper : ∀ item ∈ items, (spanOf item).startLine ≤ (spanOf item).endLine)
    (sorted : items.Pairwise fun left right => (spanOf left).startLine ≤ (spanOf right).startLine)
    (behind : ∀ span ∈ last, ∀ item ∈ items, span.startLine ≤ (spanOf item).startLine) :
    (∀ span ∈ last, ∀ item ∈ Span.dropOverlaps spanOf last items, span.Before (spanOf item)) ∧
      (Span.dropOverlaps spanOf last items).Pairwise
        fun left right => (spanOf left).Before (spanOf right) := by
  induction items generalizing last with
  | nil => simp [Span.dropOverlaps]
  | cons item rest inductionHypothesis =>
    rw [List.pairwise_cons] at sorted
    have properRest := fun other member => proper other (List.mem_cons_of_mem _ member)
    unfold Span.dropOverlaps
    split
    · exact inductionHypothesis properRest sorted.2
        fun span among other member => behind span among other (List.mem_cons_of_mem _ member)
    next kept =>
      have starts : ∀ span ∈ some (spanOf item), ∀ other ∈ rest,
          span.startLine ≤ (spanOf other).startLine := by simpa using sorted.1
      obtain ⟨first, row⟩ := inductionHypothesis properRest sorted.2 starts
      refine ⟨fun span among other member => ?_,
        List.pairwise_cons.mpr ⟨fun other member => first _ rfl other member, row⟩⟩
      have start := behind span among item List.mem_cons_self
      have here : span.Before (spanOf item) := by
        refine Span.before_of_overlaps (proper item List.mem_cons_self) start ?_
        simpa [Option.mem_def.mp among] using kept
      rcases List.mem_cons.mp member with rfl | later
      · exact here
      · have next : (spanOf item).Before (spanOf other) := first _ rfl other later
        have properItem := proper item List.mem_cons_self
        unfold Span.Before at *
        omega

/-- Items in a row have no overlaps to drop. -/
theorem Span.dropOverlaps_eq_self {last : Option Span} {items : List α}
    (behind : ∀ span ∈ last, ∀ item ∈ items, span.Before (spanOf item))
    (row : items.Pairwise fun left right => (spanOf left).Before (spanOf right)) :
    Span.dropOverlaps spanOf last items = items := by
  induction items generalizing last with
  | nil => rfl
  | cons item rest inductionHypothesis =>
    rw [List.pairwise_cons] at row
    have apart : last.any (·.overlaps (spanOf item)) = false := by
      cases last with
      | none => rfl
      | some span => exact (behind span rfl item List.mem_cons_self).overlaps
    have starts : ∀ span ∈ some (spanOf item), ∀ other ∈ rest, span.Before (spanOf other) := by
      simpa using row.1
    rw [Span.dropOverlaps, if_neg (by simp [apart]), inductionHypothesis starts row.2]

/-! ### Sorting -/

theorem Span.widestFirst_mergeSort (spanOf : α → Span) (items : List α) :
    (items.mergeSort fun left right => (spanOf left).widestFirst (spanOf right)).Pairwise
      fun left right => (spanOf left).widestFirst (spanOf right) = true :=
  List.pairwise_mergeSort
    (fun first second third => Span.widestFirst_trans (spanOf first) (spanOf second) (spanOf third))
    (fun left right => Span.widestFirst_total (spanOf left) (spanOf right)) items

/-- Items that do not overlap are in a row once they are sorted by their first lines. -/
theorem Span.before_mergeSort {items : List α}
    (proper : ∀ item ∈ items, (spanOf item).startLine ≤ (spanOf item).endLine)
    (apart : items.Pairwise fun left right => (spanOf left).overlaps (spanOf right) = false) :
    (items.mergeSort fun left right => (spanOf left).startLine ≤ (spanOf right).startLine).Pairwise
      fun left right => (spanOf left).Before (spanOf right) := by
  have sorted : (items.mergeSort fun left right =>
      decide ((spanOf left).startLine ≤ (spanOf right).startLine)).Pairwise
        fun left right => decide ((spanOf left).startLine ≤ (spanOf right).startLine) = true :=
    List.pairwise_mergeSort
      (fun first second third left right => by
        simpa using Nat.le_trans (of_decide_eq_true left) (of_decide_eq_true right))
      (fun left right => by simpa using Nat.le_total _ _) items
  have separate := apart.perm (List.mergeSort_perm items fun left right =>
      decide ((spanOf left).startLine ≤ (spanOf right).startLine)).symm
    (fun {left right} apart => by rw [Span.overlaps_comm]; exact apart)
  refine (sorted.and separate).imp_of_mem fun {left right} _ rightMember both => ?_
  exact Span.before_of_overlaps (proper right (List.mem_mergeSort.mp rightMember))
    (of_decide_eq_true both.1) both.2

/-- A row is determined by the items in it. -/
theorem eq_of_row {first second : List α}
    (proper : ∀ item ∈ first, (spanOf item).startLine ≤ (spanOf item).endLine)
    (left : first.Pairwise fun left right => (spanOf left).Before (spanOf right))
    (right : second.Pairwise fun left right => (spanOf left).Before (spanOf right))
    (same : ∀ item, item ∈ first ↔ item ∈ second) : first = second := by
  have distinct {items : List α}
      (proper : ∀ item ∈ items, (spanOf item).startLine ≤ (spanOf item).endLine)
      (row : items.Pairwise fun left right => (spanOf left).Before (spanOf right)) :
      items.Nodup := by
    refine row.imp_of_mem fun {left right} member _ before equal => ?_
    have := proper left member
    rw [← equal, Span.Before] at before
    omega
  have properSecond : ∀ item ∈ second, (spanOf item).startLine ≤ (spanOf item).endLine :=
    fun item member => proper item ((same item).mpr member)
  have permutation : first.Perm second :=
    (List.perm_ext_iff_of_nodup (distinct proper left) (distinct properSecond right)).mpr same
  refine permutation.eq_of_pairwise ?_ left right
  intro item other member otherMember before behind
  have := proper item member
  have := properSecond other otherMember
  unfold Span.Before at before behind
  omega

end rows

end Chunking
