/-
Operations without tokens. A comparison has none, and compaction makes none: what a
slide leaves over of a kept stretch is left out if nothing is left of it, and all
else that it does moves operations or makes them longer.
-/

import Chunking.Proofs.Comparison

namespace Chunking.Diff

/-- Each of the operations concerns some tokens. -/
def Solid (operations : List Operation) : Prop :=
  ∀ operation ∈ operations, operation.isEmpty = false

namespace Operation

theorem isEmpty_keep {size : Nat} (positive : 0 < size) (old new : Nat) :
    (keep old new size).isEmpty = false := by
  simp [isEmpty, keep, Nat.ne_of_gt positive]

theorem isEmpty_absorb (first second : Operation) (solid : first.isEmpty = false) :
    (first.absorb second).isEmpty = false := by
  simp only [isEmpty, absorb, Bool.and_eq_false_iff, beq_eq_false_iff_ne] at solid ⊢
  omega

theorem isEmpty_lengthen {operation : Operation} (isKeep : operation.isKeep = true) {count : Nat}
    (positive : 0 < count) : (operation.lengthen count).isEmpty = false := by
  have tag : operation.tag = .equal := by simpa [Operation.isKeep] using isKeep
  simp only [isEmpty, lengthen, tag, Bool.and_eq_false_iff, beq_eq_false_iff_ne]
  simp
  omega

end Operation

namespace Solid

variable {first second operations : List Operation} {operation : Operation}

theorem append : Solid (first ++ second) ↔ Solid first ∧ Solid second :=
  List.forall_mem_append

theorem cons : Solid (operation :: operations) ↔ operation.isEmpty = false ∧ Solid operations :=
  List.forall_mem_cons

theorem nil : Solid [] :=
  fun _ member => nomatch member

theorem unlessEmpty (operation : Operation) : Solid (Diff.unlessEmpty operation) := by
  unfold Diff.unlessEmpty
  split
  next => exact nil
  next some => exact cons.mpr ⟨by simpa using some, nil⟩

/-- An operation of which nothing is left is not put back. -/
theorem putBack (operation : Operation) (solid : Solid operations) :
    Solid (if operation.isEmpty then operations else operation :: operations) := by
  split
  next => exact solid
  next some => exact cons.mpr ⟨by simpa using some, solid⟩

theorem keepBehind {count : Nat} (positive : 0 < count) (kept moving : Operation)
    (solid : Solid operations) : Solid (Sides.keepBehind count kept moving operations) := by
  unfold Sides.keepBehind
  split
  next next rest =>
    split
    next isKeep => exact cons.mpr ⟨Operation.isEmpty_lengthen isKeep positive, (cons.mp solid).2⟩
    next => exact cons.mpr ⟨Operation.isEmpty_keep positive _ _, solid⟩
  next => exact cons.mpr ⟨Operation.isEmpty_keep positive _ _, nil⟩

theorem keepBefore {count : Nat} (positive : 0 < count) (kept moving : Operation)
    (solid : Solid operations) : Solid (Sides.keepBefore count kept moving operations) := by
  unfold Sides.keepBefore
  split
  next previous earlier =>
    split
    next isKeep => exact cons.mpr ⟨Operation.isEmpty_lengthen isKeep positive, (cons.mp solid).2⟩
    next => exact cons.mpr ⟨Operation.isEmpty_keep positive _ _, solid⟩
  next => exact cons.mpr ⟨Operation.isEmpty_keep positive _ _, nil⟩

end Solid

/-! ### The comparison -/

/-- If comparisons of parts have no operations without tokens, neither has what is done between
common ends. -/
theorem between_solid {deadline : Deadline} {fuel : Nat}
    (parts : ∀ asked oldAt newAt old new,
      Solid (compareFrom deadline fuel asked oldAt newAt old new).1)
    (asked oldAt newAt : Nat) (old new : List String) :
    Solid (between deadline fuel asked oldAt newAt old new).1 := by
  unfold between
  split
  · exact .nil
  · simp [Solid, Operation.isEmpty, Operation.remove]
  · simp [Solid, Operation.isEmpty, Operation.add]
  · split
    · exact Solid.append.mpr ⟨parts _ _ _ _ _, parts _ _ _ _ _⟩
    · simp [Solid, Operation.isEmpty, Operation.remove, Operation.add]

theorem compareFrom_solid (deadline : Deadline) (fuel asked oldAt newAt : Nat)
    (old new : List String) : Solid (compareFrom deadline fuel asked oldAt newAt old new).1 := by
  induction fuel generalizing asked oldAt newAt old new with
  | zero => exact Solid.append.mpr ⟨.unlessEmpty _, .unlessEmpty _⟩
  | succ fuel inductionHypothesis =>
    rw [compareFrom_succ]
    exact Solid.append.mpr ⟨.unlessEmpty _,
      Solid.append.mpr ⟨between_solid inductionHypothesis _ _ _ _ _, .unlessEmpty _⟩⟩

theorem compare_solid (deadline : Deadline) (old new : List String) :
    Solid (compare deadline old new) :=
  compareFrom_solid deadline _ 0 0 0 old new

/-! ### Compaction -/

/-- Each operation of an opened list concerns some tokens. -/
structure Opened.Solid (opened : Opened) : Prop where
  before : Diff.Solid opened.before
  here : opened.here.isEmpty = false
  behind : Diff.Solid opened.behind

namespace Sides

variable (sides : Sides)

theorem slideUp_solid (fuel : Nat) {opened : Opened} (solid : opened.Solid) :
    (sides.slideUp fuel opened).Solid := by
  induction fuel generalizing opened with
  | zero => exact solid
  | succ fuel inductionHypothesis =>
    obtain ⟨before, here, behind⟩ := opened
    obtain ⟨beforeSolid, hereSolid, behindSolid⟩ := solid
    unfold slideUp
    simp only
    split
    next => exact ⟨beforeSolid, hereSolid, behindSolid⟩
    next previous earlier =>
      obtain ⟨previousSolid, earlierSolid⟩ := Solid.cons.mp beforeSolid
      split
      next =>
        split
        next slack =>
          exact inductionHypothesis
            ⟨earlierSolid.putBack _, hereSolid, behindSolid.keepBehind slack previous here⟩
        next =>
          split
          next => exact inductionHypothesis ⟨earlierSolid, hereSolid, behindSolid⟩
          next => exact ⟨beforeSolid, hereSolid, behindSolid⟩
      next =>
        split
        next =>
          exact inductionHypothesis
            ⟨earlierSolid, previous.isEmpty_absorb here previousSolid, behindSolid⟩
        next =>
          exact inductionHypothesis
            ⟨earlierSolid, hereSolid, Solid.cons.mpr ⟨previousSolid, behindSolid⟩⟩

theorem slideDown_solid (fuel : Nat) {opened : Opened} (solid : opened.Solid) :
    (sides.slideDown fuel opened).Solid := by
  induction fuel generalizing opened with
  | zero => exact solid
  | succ fuel inductionHypothesis =>
    obtain ⟨before, here, behind⟩ := opened
    obtain ⟨beforeSolid, hereSolid, behindSolid⟩ := solid
    unfold slideDown
    simp only
    split
    next => exact ⟨beforeSolid, hereSolid, behindSolid⟩
    next next later =>
      obtain ⟨nextSolid, laterSolid⟩ := Solid.cons.mp behindSolid
      split
      next =>
        split
        next slack =>
          exact inductionHypothesis
            ⟨beforeSolid.keepBefore slack next here, hereSolid, laterSolid.putBack _⟩
        next =>
          split
          next => exact inductionHypothesis ⟨beforeSolid, hereSolid, laterSolid⟩
          next => exact ⟨beforeSolid, hereSolid, behindSolid⟩
      next =>
        split
        next =>
          exact inductionHypothesis ⟨beforeSolid, here.isEmpty_absorb next hereSolid, laterSolid⟩
        next =>
          exact inductionHypothesis
            ⟨Solid.cons.mpr ⟨nextSolid, beforeSolid⟩, hereSolid, laterSolid⟩

theorem settleOne_solid {opened : Opened} (solid : opened.Solid) : (sides.settleOne opened).Solid :=
  sides.slideDown_solid _ (sides.slideUp_solid _ solid)

theorem settleTag_solid (tag : Tag) (fuel : Nat) {before behind : List Operation}
    (beforeSolid : Solid before) (behindSolid : Solid behind) :
    Solid (sides.settleTag tag fuel before behind) := by
  have reversed {operations : List Operation} (solid : Solid operations) :
      Solid operations.reverse :=
    fun operation member => solid operation (List.mem_reverse.mp member)
  induction fuel generalizing before behind with
  | zero => exact Solid.append.mpr ⟨reversed beforeSolid, behindSolid⟩
  | succ fuel inductionHypothesis =>
    cases behind with
    | nil => exact reversed beforeSolid
    | cons operation rest =>
      obtain ⟨operationSolid, restSolid⟩ := Solid.cons.mp behindSolid
      rw [settleTag]
      split
      next =>
        have opened : Opened.Solid ⟨before, operation, rest⟩ :=
          ⟨beforeSolid, operationSolid, restSolid⟩
        have settled := sides.settleOne_solid opened
        exact inductionHypothesis (Solid.cons.mpr ⟨settled.here, settled.before⟩) settled.behind
      next => exact inductionHypothesis (Solid.cons.mpr ⟨operationSolid, beforeSolid⟩) restSolid

theorem compact_solid {operations : List Operation} (solid : Solid operations) :
    Solid (sides.compact operations) :=
  sides.settleTag_solid _ _ .nil (sides.settleTag_solid _ _ .nil solid)

end Sides

end Chunking.Diff
