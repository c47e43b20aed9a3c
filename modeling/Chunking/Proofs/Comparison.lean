/-
The comparison of two token lists leads from one to the other, however much time
there is and wherever it is cut in the middle. Each part of it is followed by
operations that lead on to the ends, so the parts are put together from behind.
-/

import Chunking.Diff.Script
import Chunking.Proofs.Walks

namespace Chunking.Diff

/-! ### Parts -/

/-- A list stands at some place in another one. -/
def IsPart (whole : List String) (start : Nat) (part : List String) : Prop :=
  ∀ count < part.length, whole[start + count]? = part[count]?

namespace IsPart

variable {whole part : List String} {start : Nat}

theorem self (whole : List String) : IsPart whole 0 whole :=
  fun count _ => by rw [Nat.zero_add]

theorem take (isPart : IsPart whole start part) (size : Nat) : IsPart whole start (part.take size) := by
  intro count bound
  rw [List.length_take] at bound
  rw [isPart count (by omega), List.getElem?_take_of_lt (by omega)]

theorem drop (isPart : IsPart whole start part) (size : Nat) :
    IsPart whole (start + size) (part.drop size) := by
  intro count bound
  rw [List.length_drop] at bound
  rw [Nat.add_assoc, isPart (size + count) (by omega), List.getElem?_drop]

end IsPart

/-- The comparison is cut inside of both lists. -/
theorem Grid.middle?_le {grid : Grid} {deadline : Deadline} {asked old new : Nat}
    (found : (grid.middle? deadline asked).1 = some (old, new)) :
    old ≤ grid.old.length ∧ new ≤ grid.new.length := by
  obtain ⟨point, _, inside⟩ := Option.bind_eq_some_iff.mp found
  unfold inside? at inside
  split at inside
  next within =>
    cases inside
    simp only [width, height] at within
    omega
  next => cases inside

/-! ### Putting operations together -/

namespace Walk

variable {sides : Sides} {old new : Nat} {operations : List Operation}

theorem unlessEmpty {operation : Operation} (walk : Walk sides old new (operation :: operations)) :
    Walk sides old new (Diff.unlessEmpty operation ++ operations) := by
  have left := (Leads.unlessEmpty operation operations _ _ walk).1
  unfold Diff.unlessEmpty
  split at left
  next empty =>
    rw [if_pos empty]
    exact left
  next some =>
    rw [if_neg some]
    exact left

/-- An insertion at the place of a deletion that comes first. -/
theorem addBehind {removed added : Nat}
    (walk : Walk sides (old + removed) (new + added) operations) :
    Walk sides (old + removed) new (.add old new added :: operations) := by
  have bounds := walk.kept_le
  exact .add (by omega) walk

end Walk

/-! ### The comparison -/

variable {sides : Sides}

/-- Tokens that both lists begin with are kept. -/
theorem keepStart_walk {oldAt newAt : Nat} {old new : List String}
    (oldPart : IsPart sides.old oldAt old) (newPart : IsPart sides.new newAt new)
    {operations : List Operation}
    (walk : Walk sides (oldAt + commonStart old new) (newAt + commonStart old new) operations) :
    Walk sides oldAt newAt
      (unlessEmpty (.keep oldAt newAt (commonStart old new)) ++ operations) := by
  obtain ⟨shortOld, shortNew, same⟩ := commonStart_spec old new
  refine Walk.unlessEmpty (.keep (fun count bound => ?_) walk)
  rw [oldPart count (Nat.lt_of_lt_of_le bound shortOld),
    newPart count (Nat.lt_of_lt_of_le bound shortNew)]
  exact same count bound

/-- Tokens that both lists end with are kept. -/
theorem keepEnd_walk {oldAt newAt : Nat} {old new : List String}
    (oldPart : IsPart sides.old oldAt old) (newPart : IsPart sides.new newAt new)
    {operations : List Operation}
    (walk : Walk sides (oldAt + old.length) (newAt + new.length) operations) :
    Walk sides (oldAt + (old.length - commonEnd old new)) (newAt + (new.length - commonEnd old new))
      (unlessEmpty (.keep (oldAt + (old.length - commonEnd old new))
        (newAt + (new.length - commonEnd old new)) (commonEnd old new)) ++ operations) := by
  obtain ⟨shortOld, shortNew, same⟩ := commonEnd_spec old new
  refine Walk.unlessEmpty (.keep (fun count bound => ?_) (walk.of_eq (by omega) (by omega)))
  rw [Nat.add_assoc, Nat.add_assoc, oldPart _ (by omega), newPart _ (by omega)]
  exact same count bound

/-- What is done with parts that have nothing in common at their ends. -/
def between (deadline : Deadline) (fuel asked oldAt newAt : Nat) (old new : List String) :
    List Operation × Nat :=
  match old, new with
  | [], [] => ([], asked)
  | _ :: _, [] => ([.remove oldAt newAt old.length], asked)
  | [], _ :: _ => ([.add oldAt newAt new.length], asked)
  | _ :: _, _ :: _ =>
    match (Grid.mk old new).middle? deadline asked with
    | (some (x, y), asked) =>
      let first := compareFrom deadline fuel asked oldAt newAt (old.take x) (new.take y)
      let second :=
        compareFrom deadline fuel first.2 (oldAt + x) (newAt + y) (old.drop x) (new.drop y)
      (first.1 ++ second.1, second.2)
    | (none, asked) => ([.remove oldAt newAt old.length, .add oldAt newAt new.length], asked)

theorem compareFrom_succ (deadline : Deadline) (fuel asked oldAt newAt : Nat)
    (old new : List String) :
    (compareFrom deadline (fuel + 1) asked oldAt newAt old new).1 =
      let before := commonStart old new
      let oldRest := old.drop before
      let newRest := new.drop before
      let oldPart := oldRest.take (oldRest.length - commonEnd oldRest newRest)
      let newPart := newRest.take (newRest.length - commonEnd oldRest newRest)
      unlessEmpty (.keep oldAt newAt before)
        ++ ((between deadline fuel asked (oldAt + before) (newAt + before) oldPart newPart).1
          ++ unlessEmpty (.keep (oldAt + before + oldPart.length) (newAt + before + newPart.length)
            (commonEnd oldRest newRest))) := by
  rw [← List.append_assoc]
  rfl

/-- If comparisons of parts lead on, so does what is done between common ends. -/
theorem between_walk {deadline : Deadline} {fuel : Nat}
    (parts : ∀ {asked oldAt newAt : Nat} {old new : List String} {operations : List Operation},
      IsPart sides.old oldAt old → IsPart sides.new newAt new →
      Walk sides (oldAt + old.length) (newAt + new.length) operations →
      Walk sides oldAt newAt ((compareFrom deadline fuel asked oldAt newAt old new).1 ++ operations))
    {asked oldAt newAt : Nat} {old new : List String} {operations : List Operation}
    (oldPart : IsPart sides.old oldAt old) (newPart : IsPart sides.new newAt new)
    (walk : Walk sides (oldAt + old.length) (newAt + new.length) operations) :
    Walk sides oldAt newAt ((between deadline fuel asked oldAt newAt old new).1 ++ operations) := by
  unfold between
  split
  · exact walk
  · exact walk.removeHere
  · exact walk.addHere
  · split
    next x y _ found =>
      obtain ⟨oldInside, newInside⟩ := Grid.middle?_le (congrArg Prod.fst found)
      rw [List.append_assoc]
      refine parts (oldPart.take x) (newPart.take y) ?_
      rw [List.length_take_of_le oldInside, List.length_take_of_le newInside]
      refine parts (oldPart.drop x) (newPart.drop y) ?_
      rw [List.length_drop, List.length_drop]
      exact walk.of_eq (by rw [Nat.add_assoc, Nat.add_sub_cancel' oldInside])
        (by rw [Nat.add_assoc, Nat.add_sub_cancel' newInside])
    next => exact walk.addBehind.removeHere

theorem compareFrom_walk (deadline : Deadline) (fuel asked : Nat) {oldAt newAt : Nat}
    {old new : List String} {operations : List Operation} (oldPart : IsPart sides.old oldAt old)
    (newPart : IsPart sides.new newAt new)
    (walk : Walk sides (oldAt + old.length) (newAt + new.length) operations) :
    Walk sides oldAt newAt ((compareFrom deadline fuel asked oldAt newAt old new).1 ++ operations) := by
  induction fuel generalizing asked oldAt newAt old new operations with
  | zero =>
    rw [compareFrom, List.append_assoc]
    exact walk.addBehind.unlessEmpty.removeHere.unlessEmpty
  | succ fuel inductionHypothesis =>
    have starts := commonStart_spec old new
    have oldRest := oldPart.drop (commonStart old new)
    have newRest := newPart.drop (commonStart old new)
    have last := keepEnd_walk oldRest newRest
      (walk.of_eq (by rw [List.length_drop]; omega) (by rw [List.length_drop]; omega))
    rw [compareFrom_succ]
    simp only [List.append_assoc, List.length_take_of_le (Nat.sub_le _ _)]
    refine keepStart_walk oldPart newPart (between_walk (inductionHypothesis _) (oldRest.take _)
      (newRest.take _) ?_)
    rw [List.length_take_of_le (Nat.sub_le _ _), List.length_take_of_le (Nat.sub_le _ _)]
    exact last

/-- The operations of a comparison lead from the beginnings to the ends. -/
theorem compare_walk (deadline : Deadline) (old new : List String) :
    Walk ⟨old, new⟩ 0 0 (compare deadline old new) := by
  rw [← List.append_nil (compare deadline old new)]
  exact compareFrom_walk deadline _ 0 (IsPart.self old) (IsPart.self new)
    (.done (Nat.zero_add _) (Nat.zero_add _))

/-- Equal lists are kept as a whole. -/
theorem compare_self (deadline : Deadline) (items : List String) :
    compare deadline items items = unlessEmpty (.keep 0 0 items.length) := by
  rw [compare, compareFrom_succ, commonStart_self]
  simp [commonEnd, commonStart, between, unlessEmpty, Operation.isEmpty, Operation.keep]

end Chunking.Diff
