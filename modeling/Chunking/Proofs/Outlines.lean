/-
The outline of a new text. It consists of the old nodes that lie outside of all
windows, moved with their lines, and of the nodes found in the windows. Sorting
and dropping repetitions change neither of the two, so the outline is in order
and all of it lies inside of the text.
-/

import Chunking.Proofs.Answers

namespace Chunking

/-! ### Repetitions -/

section repetitions

variable {α : Type} [BEq α] [LawfulBEq α]

theorem mem_eraseReps_loop (item : α) (rest kept : List α) (other : α) :
    other ∈ List.eraseRepsBy.loop (· == ·) item rest kept ↔ other ∈ kept ∨ other ∈ item :: rest := by
  induction rest generalizing item kept with
  | nil => simp [List.eraseRepsBy.loop]
  | cons next rest inductionHypothesis =>
    unfold List.eraseRepsBy.loop
    split
    next repeated =>
      rw [inductionHypothesis, eq_of_beq repeated]
      simp
    next =>
      rw [inductionHypothesis]
      simp only [List.mem_cons]
      tauto

theorem mem_eraseReps {items : List α} {item : α} : item ∈ items.eraseReps ↔ item ∈ items := by
  cases items with
  | nil => exact Iff.rfl
  | cons first rest => exact (mem_eraseReps_loop first rest [] item).trans (by simp)

variable {Ordered : α → α → Prop}
  (trans : ∀ first second third, Ordered first second → Ordered second third → Ordered first third)
  (antisymm : ∀ first second, Ordered first second → Ordered second first → first = second)

include trans antisymm

/-- What has been kept is in strict order up to the item at hand, which comes before the rest. -/
theorem eraseReps_loop_strict {item : α} {rest kept : List α}
    (sorted : (item :: rest).Pairwise Ordered)
    (strict : (kept.reverse ++ [item]).Pairwise fun left right => Ordered left right ∧ left ≠ right) :
    (List.eraseRepsBy.loop (· == ·) item rest kept).Pairwise
      fun left right => Ordered left right ∧ left ≠ right := by
  induction rest generalizing item kept with
  | nil =>
    rw [List.eraseRepsBy.loop, List.reverse_cons]
    exact strict
  | cons next rest inductionHypothesis =>
    unfold List.eraseRepsBy.loop
    split
    next =>
      exact inductionHypothesis (sorted.sublist (.cons_cons _ (.cons _ (.refl _)))) strict
    next other =>
      rw [List.pairwise_cons] at sorted
      have before : Ordered item next ∧ item ≠ next :=
        ⟨sorted.1 next List.mem_cons_self, fun same => by simp [same] at other⟩
      refine inductionHypothesis sorted.2 ?_
      rw [List.reverse_cons]
      refine List.pairwise_append.mpr
        ⟨strict, List.pairwise_singleton _ _, fun earlier among _ last => ?_⟩
      rw [List.mem_singleton.mp last]
      rcases List.mem_append.mp among with older | here
      · have ordered := (List.pairwise_append.mp strict).2.2 earlier older item
          (List.mem_singleton_self _)
        refine ⟨trans _ _ _ ordered.1 before.1, ?_⟩
        rintro rfl
        exact before.2 (antisymm _ _ before.1 ordered.1)
      · rw [List.mem_singleton.mp here]
        exact before

/-- Among sorted items, those that are the same stand together, so none is left twice. -/
theorem eraseReps_strict {items : List α} (sorted : items.Pairwise Ordered) :
    items.eraseReps.Pairwise fun left right => Ordered left right ∧ left ≠ right := by
  cases items with
  | nil => exact .nil
  | cons item rest =>
    exact eraseReps_loop_strict trans antisymm sorted (List.pairwise_singleton _ _)

end repetitions

/-! ### Carried outlines -/

theorem Span.inOrder_trans (first second third : Span) (left : first.inOrder second = true)
    (right : second.inOrder third = true) : first.inOrder third = true := by
  simp only [inOrder, Bool.or_eq_true, decide_eq_true_eq, Bool.and_eq_true, beq_iff_eq]
    at left right ⊢
  omega

theorem Span.inOrder_total (left right : Span) :
    (left.inOrder right || right.inOrder left) = true := by
  simp only [inOrder, Bool.or_eq_true, decide_eq_true_eq, Bool.and_eq_true, beq_iff_eq]
  omega

theorem Span.inOrder_antisymm (first second : Span) (left : first.inOrder second = true)
    (right : second.inOrder first = true) : first = second := by
  cases first
  cases second
  simp only [inOrder, Bool.or_eq_true, decide_eq_true_eq, Bool.and_eq_true, beq_iff_eq]
    at left right
  simp only [Span.mk.injEq]
  omega

/-- One span comes before another in their order and is not the same. -/
def Span.Precedes (left right : Span) : Prop :=
  left.inOrder right = true ∧ left ≠ right

variable {prior : List Span} {changes : List LineChange} {windows : List LineRange}
  {parsed : List Span}

theorem mem_carryOutline {node : Span} : node ∈ carryOutline prior changes windows parsed ↔
    (∃ old ∈ prior, Resolution.isTouched changes old = false ∧
      Changes.shiftSpan changes old = node ∧
      ∀ window ∈ windows, window.overlaps node.toRange = false) ∨ node ∈ parsed := by
  rw [carryOutline, mem_eraseReps, List.mem_mergeSort, List.mem_append, List.mem_filter]
  simp only [List.mem_map, List.mem_filter, Bool.not_eq_true', List.any_eq_false,
    Bool.not_eq_true]
  constructor
  · rintro (⟨⟨old, ⟨member, untouched⟩, moved⟩, outside⟩ | found)
    · exact Or.inl ⟨old, member, untouched, moved, outside⟩
    · exact Or.inr found
  · rintro (⟨old, member, untouched, moved, outside⟩ | found)
    · exact Or.inl ⟨⟨old, ⟨member, untouched⟩, moved⟩, outside⟩
    · exact Or.inr found

/-- Nodes that are carried over and nodes that were found come in their order, and none of them
twice. -/
theorem carryOutline_strict :
    (carryOutline prior changes windows parsed).Pairwise Span.Precedes :=
  eraseReps_strict Span.inOrder_trans Span.inOrder_antisymm
    (List.pairwise_mergeSort Span.inOrder_trans Span.inOrder_total _)

theorem carryOutline_ordered : (carryOutline prior changes windows parsed).Pairwise
    fun left right => left.startLine ≤ right.startLine := by
  refine carryOutline_strict.imp fun {left right} precedes => ?_
  have ordered := precedes.1
  simp only [Span.inOrder, Bool.or_eq_true, decide_eq_true_eq, Bool.and_eq_true, beq_iff_eq]
    at ordered
  omega

theorem carryOutline_fits {old new : List String} (script : EditScript 0 0 changes old new)
    (oldSmall : old.length < Word.signedLimit) (newSmall : new.length < Word.signedLimit)
    (priorFits : ∀ node ∈ prior, node.Fits old.length)
    (parsedFits : ∀ node ∈ parsed, node.Fits new.length) :
    ∀ node ∈ carryOutline prior changes windows parsed, node.Fits new.length := by
  intro node member
  rcases mem_carryOutline.mp member with ⟨origin, listed, untouched, rfl, _⟩ | found
  · have fits := priorFits origin listed
    obtain ⟨place, carried⟩ := script.carried oldSmall newSmall fits untouched
    have stops := carried.stop_le fits
    have proper := fits.2.1
    rw [carried.shiftSpan_eq fits oldSmall newSmall]
    simp only [Span.Fits, Span.size] at stops ⊢
    omega
  · exact parsedFits node found

end Chunking
