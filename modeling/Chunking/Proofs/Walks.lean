/-
Operations of a comparison. Kept stretches and deletions follow each other without
gaps in the old tokens, and kept stretches and insertions do so in the new ones.
Where a deletion stands in the new tokens, or an insertion in the old ones, is
only a hint that may be off, but it never runs so far that the stretches kept
behind it would not fit in. Compaction does nothing to this: each of its steps is
a matter of two neighbours, which are joined, exchanged, or slide along each
other.
-/

import Chunking.Diff.Compaction
import Mathlib.Data.List.Basic

namespace Chunking.Diff

/-! ### Common ends -/

theorem commonStart_spec (left right : List String) :
    commonStart left right ≤ left.length ∧ commonStart left right ≤ right.length ∧
      ∀ count < commonStart left right, left[count]? = right[count]? := by
  fun_induction commonStart left right with
  | case1 left lefts rights inductionHypothesis =>
    obtain ⟨shortLeft, shortRight, same⟩ := inductionHypothesis
    refine ⟨Nat.succ_le_succ shortLeft, Nat.succ_le_succ shortRight, fun count bound => ?_⟩
    cases count with
    | zero => rfl
    | succ count => simpa using same count (Nat.lt_of_succ_lt_succ bound)
  | case2 => simp
  | case3 => simp

theorem commonStart_self (items : List String) : commonStart items items = items.length := by
  induction items with
  | nil => rfl
  | cons item rest inductionHypothesis =>
    rw [commonStart, if_pos rfl, inductionHypothesis, List.length_cons]

theorem commonStart_nil (left : List String) : commonStart left [] = 0 := by
  cases left <;> rfl

theorem commonEnd_spec (left right : List String) :
    commonEnd left right ≤ left.length ∧ commonEnd left right ≤ right.length ∧
      ∀ count < commonEnd left right,
        left[left.length - commonEnd left right + count]? =
          right[right.length - commonEnd left right + count]? := by
  obtain ⟨shortLeft, shortRight, same⟩ := commonStart_spec left.reverse right.reverse
  rw [List.length_reverse] at shortLeft shortRight
  change commonEnd left right ≤ _ at shortLeft shortRight
  refine ⟨shortLeft, shortRight, fun count bound => ?_⟩
  -- Counted from the end, it is the place `count` before the last common one.
  have mirrored := same (commonEnd left right - 1 - count) (by unfold commonEnd at bound ⊢; omega)
  rw [List.getElem?_reverse (by omega), List.getElem?_reverse (by omega)] at mirrored
  rw [show left.length - commonEnd left right + count =
      left.length - 1 - (commonEnd left right - 1 - count) by omega,
    show right.length - commonEnd left right + count =
      right.length - 1 - (commonEnd left right - 1 - count) by omega]
  exact mirrored

theorem length_stretch {items : List String} {start size : Nat} (inside : start + size ≤ items.length) :
    (stretch items start size).length = size := by
  rw [stretch, List.length_take, List.length_drop]
  omega

theorem getElem?_stretch (items : List String) (start : Nat) {size count : Nat}
    (bound : count < size) : (stretch items start size)[count]? = items[start + count]? := by
  rw [stretch, List.getElem?_take_of_lt bound, List.getElem?_drop]

theorem stretch_congr {first second : List String} {start otherStart size : Nat}
    (same : ∀ count < size, first[start + count]? = second[otherStart + count]?) :
    stretch first start size = stretch second otherStart size := by
  refine List.ext_getElem? fun count => ?_
  by_cases bound : count < size
  · rw [getElem?_stretch _ _ bound, getElem?_stretch _ _ bound, same count bound]
  · rw [stretch, stretch, List.getElem?_take_eq_none (Nat.le_of_not_lt bound),
      List.getElem?_take_eq_none (Nat.le_of_not_lt bound)]

theorem stretch_append_drop (items : List String) (start size : Nat) :
    stretch items start size ++ items.drop (start + size) = items.drop start := by
  rw [stretch, ← List.drop_drop, List.take_append_drop]

namespace Operation

theorem shorten_keep (old new size count : Nat) :
    (keep old new (size + count)).shorten count = keep old new size := by
  simp [shorten, keep]

theorem moveUp_add (old new size count : Nat) :
    (add old (new + count) size).moveUp count = add (old - count) new size := by
  simp [moveUp, add]

theorem lengthen_moveUp_keep (old new size count : Nat) :
    ((keep (old + count) (new + count) size).moveUp count).lengthen count =
      keep old new (count + size) := by
  simp [moveUp, lengthen, keep, Nat.add_comm]

theorem shorten_moveDown_keep (old new size count : Nat) :
    ((keep old new (size + count)).moveDown count).shorten count =
      keep (old + count) (new + count) size := by
  simp [moveDown, shorten, keep]

end Operation

/-! ### Walks -/

/-- How many tokens are kept. -/
def kept : List Operation → Nat
  | [] => 0
  | operation :: rest => (if operation.isKeep then operation.oldSize else 0) + kept rest

/-- From an old and a new token on, operations lead to the ends of both token lists. -/
inductive Walk (sides : Sides) : (old new : Nat) → List Operation → Prop where
  | done {old new : Nat} (oldDone : old = sides.old.length) (newDone : new = sides.new.length) :
      Walk sides old new []
  | keep {old new size : Nat} {rest : List Operation}
      (same : ∀ count < size, sides.old[old + count]? = sides.new[new + count]?)
      (walk : Walk sides (old + size) (new + size) rest) :
      Walk sides old new (.keep old new size :: rest)
  | remove {old new newStart size : Nat} {rest : List Operation}
      (inside : newStart + kept rest ≤ sides.new.length) (walk : Walk sides (old + size) new rest) :
      Walk sides old new (.remove old newStart size :: rest)
  | add {old new oldStart size : Nat} {rest : List Operation}
      (inside : oldStart + kept rest ≤ sides.old.length) (walk : Walk sides old (new + size) rest) :
      Walk sides old new (.add oldStart new size :: rest)

theorem kept_keep (old new size : Nat) (rest : List Operation) :
    kept (.keep old new size :: rest) = size + kept rest := rfl

theorem kept_remove (old new size : Nat) (rest : List Operation) :
    kept (.remove old new size :: rest) = kept rest := Nat.zero_add _

theorem kept_add (old new size : Nat) (rest : List Operation) :
    kept (.add old new size :: rest) = kept rest := Nat.zero_add _

theorem kept_cons_congr (operation : Operation) {first second : List Operation}
    (alike : kept first = kept second) : kept (operation :: first) = kept (operation :: second) := by
  rw [kept, kept, alike]

namespace Walk

variable {sides : Sides} {old new : Nat} {operations : List Operation}

/-- What is kept fits into what is left on both sides. -/
theorem kept_le (walk : Walk sides old new operations) :
    old + kept operations ≤ sides.old.length ∧ new + kept operations ≤ sides.new.length := by
  induction walk with
  | done oldDone newDone => exact ⟨Nat.le_of_eq oldDone, Nat.le_of_eq newDone⟩
  | keep same walk inductionHypothesis =>
    rw [kept_keep]
    omega
  | remove inside walk inductionHypothesis =>
    rw [kept_remove]
    omega
  | add inside walk inductionHypothesis =>
    rw [kept_add]
    omega

theorem of_eq {otherOld otherNew : Nat} (walk : Walk sides old new operations)
    (sameOld : old = otherOld) (sameNew : new = otherNew) :
    Walk sides otherOld otherNew operations :=
  sameOld ▸ sameNew ▸ walk

theorem of_delete {operation : Operation} (tag : operation.tag = .delete)
    (walk : Walk sides old new (operation :: operations)) :
    ∃ newStart size, operation = .remove old newStart size ∧
      newStart ≤ sides.new.length ∧ Walk sides (old + size) new operations := by
  cases walk with
  | keep => cases tag
  | add => cases tag
  | remove inside walk => exact ⟨_, _, rfl, Nat.le_of_add_right_le inside, walk⟩

theorem of_insert {operation : Operation} (tag : operation.tag = .insert)
    (walk : Walk sides old new (operation :: operations)) :
    ∃ oldStart size, operation = .add oldStart new size ∧
      oldStart ≤ sides.old.length ∧ Walk sides old (new + size) operations := by
  cases walk with
  | keep => cases tag
  | remove => cases tag
  | add inside walk => exact ⟨_, _, rfl, Nat.le_of_add_right_le inside, walk⟩

/-- A deletion at its very place. -/
theorem removeHere {size : Nat} (walk : Walk sides (old + size) new operations) :
    Walk sides old new (.remove old new size :: operations) :=
  .remove walk.kept_le.2 walk

/-- An insertion at its very place. -/
theorem addHere {size : Nat} (walk : Walk sides old (new + size) operations) :
    Walk sides old new (.add old new size :: operations) :=
  .add walk.kept_le.1 walk

end Walk

/-! ### Neighbours -/

/-- Wherever some operations lead to the ends, others do so, too, and keep as much. -/
def Leads (sides : Sides) (first second : List Operation) : Prop :=
  ∀ old new, Walk sides old new first → Walk sides old new second ∧ kept first = kept second

namespace Leads

variable {sides : Sides} {first second third operations : List Operation}

theorem refl (operations : List Operation) : Leads sides operations operations :=
  fun _ _ walk => ⟨walk, rfl⟩

theorem trans (left : Leads sides first second) (right : Leads sides second third) :
    Leads sides first third := by
  intro old new walk
  obtain ⟨middle, alike⟩ := left old new walk
  obtain ⟨last, further⟩ := right old new middle
  exact ⟨last, alike.trans further⟩

/-- Operations may be replaced behind any others. -/
theorem behind (leads : Leads sides first second) (before : List Operation) :
    Leads sides (before ++ first) (before ++ second) := by
  intro old new walk
  induction before generalizing old new with
  | nil => exact leads old new walk
  | cons operation rest inductionHypothesis =>
    rw [List.cons_append] at walk
    cases walk with
    | keep same walk =>
      obtain ⟨later, alike⟩ := inductionHypothesis _ _ walk
      exact ⟨.keep same later, kept_cons_congr _ alike⟩
    | remove inside walk =>
      obtain ⟨later, alike⟩ := inductionHypothesis _ _ walk
      exact ⟨.remove (alike ▸ inside) later, kept_cons_congr _ alike⟩
    | add inside walk =>
      obtain ⟨later, alike⟩ := inductionHypothesis _ _ walk
      exact ⟨.add (alike ▸ inside) later, kept_cons_congr _ alike⟩

theorem dropEmpty {operation : Operation} (empty : operation.isEmpty = true) :
    Leads sides (operation :: operations) operations := by
  simp only [Operation.isEmpty, Bool.and_eq_true, beq_iff_eq] at empty
  intro old new walk
  cases walk with
  | @keep _ _ size _ _ walk =>
    obtain rfl : size = 0 := empty.1
    exact ⟨walk, Nat.zero_add _⟩
  | @remove _ _ _ size _ _ walk =>
    obtain rfl : size = 0 := empty.1
    exact ⟨walk, Nat.zero_add _⟩
  | @add _ _ _ size _ _ walk =>
    obtain rfl : size = 0 := empty.2
    exact ⟨walk, Nat.zero_add _⟩

/-- Stretches that are kept one after the other are one. -/
theorem joinKeeps {first second firstOld firstNew secondOld secondNew : Nat} :
    Leads sides (.keep firstOld firstNew first :: .keep secondOld secondNew second :: operations)
      (.keep firstOld firstNew (first + second) :: operations) := by
  intro old new walk
  cases walk with
  | keep same walk =>
    cases walk with
    | keep more walk =>
      rw [Nat.add_assoc, Nat.add_assoc] at walk
      refine ⟨.keep (fun count bound => ?_) walk, (Nat.add_assoc _ _ _).symm⟩
      by_cases early : count < first
      · exact same count early
      · have later := more (count - first) (by omega)
        rw [Nat.add_assoc, Nat.add_assoc, Nat.add_sub_cancel' (Nat.le_of_not_lt early)] at later
        exact later

/-- Two deletions, or two insertions, that follow each other are one. -/
theorem absorb {first second : Operation} (moving : second.tag ≠ .equal)
    (sameTag : first.tag = second.tag) :
    Leads sides (first :: second :: operations) (first.absorb second :: operations) := by
  intro old new walk
  cases walk with
  | keep => exact absurd sameTag.symm moving
  | remove inside walk =>
    cases walk with
    | keep => cases sameTag
    | add => cases sameTag
    | remove _ walk =>
      rw [kept_remove] at inside
      rw [Nat.add_assoc] at walk
      exact ⟨.remove inside walk, Nat.zero_add _⟩
  | add inside walk =>
    cases walk with
    | keep => cases sameTag
    | remove => cases sameTag
    | add _ walk =>
      rw [kept_add] at inside
      rw [Nat.add_assoc] at walk
      exact ⟨.add inside walk, Nat.zero_add _⟩

/-- A deletion and an insertion may change places. -/
theorem swap {first second : Operation} (firstMoving : first.tag ≠ .equal)
    (moving : second.tag ≠ .equal) (differentTag : first.tag ≠ second.tag) :
    Leads sides (first :: second :: operations) (second :: first :: operations) := by
  intro old new walk
  cases walk with
  | keep => exact absurd rfl firstMoving
  | remove inside walk =>
    cases walk with
    | keep => exact absurd rfl moving
    | remove => exact absurd rfl differentTag
    | add otherInside walk =>
      rw [kept_add] at inside
      exact ⟨.add (by rwa [kept_remove]) (.remove inside walk), rfl⟩
  | add inside walk =>
    cases walk with
    | keep => exact absurd rfl moving
    | add => exact absurd rfl differentTag
    | remove otherInside walk =>
      rw [kept_remove] at inside
      exact ⟨.remove (by rwa [kept_add]) (.add inside walk), rfl⟩

end Leads

/-! ### Sliding -/

namespace Sides

variable (sides : Sides) (kept moving : Operation)

/-- The tokens at the end of a kept stretch along which an operation can slide up. -/
theorem slackUp_spec (oldInside : kept.oldStop ≤ sides.old.length)
    (newInside : moving.newStop ≤ sides.new.length) :
    sides.slackUp kept moving ≤ kept.oldSize ∧ sides.slackUp kept moving ≤ moving.newSize ∧
      ∀ count < sides.slackUp kept moving,
        sides.old[kept.oldStart + (kept.oldSize - sides.slackUp kept moving) + count]? =
          sides.new[moving.newStart + (moving.newSize - sides.slackUp kept moving) + count]? := by
  have spec := commonEnd_spec (sides.oldTokens kept) (sides.newTokens moving)
  rw [← slackUp, oldTokens, newTokens, length_stretch oldInside, length_stretch newInside] at spec
  obtain ⟨shortOld, shortNew, same⟩ := spec
  refine ⟨shortOld, shortNew, fun count bound => ?_⟩
  have alike := same count bound
  rw [getElem?_stretch _ _ (by omega), getElem?_stretch _ _ (by omega), ← Nat.add_assoc,
    ← Nat.add_assoc] at alike
  exact alike

/-- The tokens at the beginning of a kept stretch along which an operation can slide down. -/
theorem slackDown_spec (oldInside : kept.oldStop ≤ sides.old.length)
    (newInside : moving.newStop ≤ sides.new.length) :
    sides.slackDown kept moving ≤ kept.oldSize ∧ sides.slackDown kept moving ≤ moving.newSize ∧
      ∀ count < sides.slackDown kept moving,
        sides.old[kept.oldStart + count]? = sides.new[moving.newStart + count]? := by
  have spec := commonStart_spec (sides.oldTokens kept) (sides.newTokens moving)
  rw [oldTokens, newTokens, length_stretch oldInside, length_stretch newInside] at spec
  obtain ⟨shortOld, shortNew, same⟩ := spec
  refine ⟨shortOld, shortNew, fun count bound => ?_⟩
  have alike := same count bound
  rw [getElem?_stretch _ _ (Nat.lt_of_lt_of_le bound shortOld),
    getElem?_stretch _ _ (Nat.lt_of_lt_of_le bound shortNew)] at alike
  exact alike

/-- A deletion has no new tokens that it could slide with. -/
theorem slackUp_remove (old new size : Nat) : sides.slackUp kept (.remove old new size) = 0 :=
  commonStart_nil _

theorem slackDown_remove (old new size : Nat) : sides.slackDown kept (.remove old new size) = 0 :=
  commonStart_nil _

end Sides

namespace Walk

variable {sides : Sides} {old new : Nat} {operations : List Operation}

/-- The tokens at the end of a kept stretch that an insertion ends with, too, may be kept behind it
instead. -/
theorem keepLater {size slack added oldStart : Nat}
    (same : ∀ count < slack,
      sides.old[old + size + count]? = sides.new[new + size + added + count]?)
    (walk : Walk sides old new
      (.keep old new (size + slack) :: .add oldStart (new + (size + slack)) added :: operations)) :
    Walk sides old new (.keep old new size :: .add (oldStart - slack) (new + size) added ::
      .keep (old + size) (new + size + added) slack :: operations) := by
  cases walk with
  | keep before walk =>
    cases walk with
    | add inside walk =>
      have bounds := walk.kept_le
      refine .keep (fun count bound => before count (Nat.lt_add_right slack bound)) (.add ?_
        (.keep same (walk.of_eq (Nat.add_assoc _ _ _).symm (by omega))))
      rw [kept_keep]
      omega

/-- The tokens at the beginning of a kept stretch that an insertion begins with, too, may be kept in
front of it instead. -/
theorem keepEarlier {size slack added oldStart : Nat}
    (same : ∀ count < slack, sides.old[old + count]? = sides.new[new + count]?)
    (walk : Walk sides old new
      (.add oldStart new added :: .keep old (new + added) (size + slack) :: operations)) :
    Walk sides old new (.keep old new slack :: .add (oldStart + slack) (new + slack) added ::
      .keep (old + slack) (new + added + slack) size :: operations) := by
  cases walk with
  | add inside walk =>
    cases walk with
    | keep behind walk =>
      rw [kept_keep] at inside
      refine .keep same (.add ?_ ?_)
      · rw [kept_keep]
        omega
      · rw [show new + added + slack = new + slack + added by omega]
        refine .keep (fun count bound => ?_) (walk.of_eq (by omega) (by omega))
        have later := behind (slack + count) (by omega)
        rw [← Nat.add_assoc, show new + added + (slack + count) = new + slack + added + count by
          omega] at later
        exact later

end Walk

namespace Leads

variable {sides : Sides} {operations : List Operation}

theorem slideUp {previous here : Operation} (isKeep : previous.isKeep = true)
    (moving : here.tag ≠ .equal) {slack : Nat} (known : sides.slackUp previous here = slack)
    (positive : 0 < slack) :
    Leads sides (previous :: here :: operations)
      (previous.shorten slack :: here.moveUp slack ::
        .keep (previous.oldStop - slack) (here.newStop - slack) slack :: operations) := by
  intro old new walk
  have whole := walk
  cases walk with
  | remove => cases isKeep
  | add => cases isKeep
  | @keep _ _ size _ _ walk =>
    cases walk with
    | keep => exact absurd rfl moving
    | remove =>
      rw [Sides.slackUp_remove] at known
      exact absurd known (Nat.ne_of_lt positive)
    | @add _ _ oldStart added _ inside walk =>
      have bounds := walk.kept_le
      obtain ⟨shortKept, shortAdded, same⟩ := sides.slackUp_spec (.keep old new size)
        (.add oldStart (new + size) added)
        (by simp only [Operation.oldStop, Operation.keep]; omega)
        (by simp only [Operation.newStop, Operation.add]; omega)
      rw [known] at shortKept shortAdded same
      obtain ⟨rest, rfl⟩ : ∃ rest, size = rest + slack := Nat.exists_eq_add_of_le' shortKept
      have alike : ∀ count < slack,
          sides.old[old + rest + count]? = sides.new[new + rest + added + count]? := by
        intro count bound
        have token := same count bound
        simp only [Operation.keep, Operation.add, Nat.add_sub_cancel] at token
        rw [show new + (rest + slack) + (added - slack) = new + rest + added by
          simp only [Operation.add] at shortAdded; omega] at token
        exact token
      have oldPlace : (Operation.keep old new (rest + slack)).oldStop - slack = old + rest := by
        simp only [Operation.oldStop, Operation.keep]
        omega
      have newPlace : (Operation.add oldStart (new + (rest + slack)) added).newStop - slack =
          new + rest + added := by
        simp only [Operation.newStop, Operation.add]
        omega
      rw [Operation.shorten_keep, oldPlace, newPlace, ← Nat.add_assoc new, Operation.moveUp_add]
      exact ⟨whole.keepLater alike, by simp only [kept_keep, kept_add, Nat.add_assoc]⟩

theorem slideDown {next here : Operation} (isKeep : next.isKeep = true) (moving : here.tag ≠ .equal)
    {slack : Nat} (known : sides.slackDown next here = slack) (positive : 0 < slack) :
    Leads sides (here :: next :: operations)
      (.keep next.oldStart here.newStart slack :: here.moveDown slack ::
        (next.moveDown slack).shorten slack :: operations) := by
  intro old new walk
  have whole := walk
  cases walk with
  | keep => exact absurd rfl moving
  | remove =>
    rw [Sides.slackDown_remove] at known
    exact absurd known (Nat.ne_of_lt positive)
  | @add _ _ oldStart added _ inside walk =>
    cases walk with
    | remove => cases isKeep
    | add => cases isKeep
    | @keep _ _ size _ _ walk =>
      have bounds := walk.kept_le
      obtain ⟨shortKept, _, same⟩ := sides.slackDown_spec (.keep old (new + added) size)
        (.add oldStart new added)
        (by simp only [Operation.oldStop, Operation.keep]; omega)
        (by simp only [Operation.newStop, Operation.add]; omega)
      rw [known] at shortKept same
      obtain ⟨rest, rfl⟩ : ∃ rest, size = rest + slack := Nat.exists_eq_add_of_le' shortKept
      rw [Operation.shorten_moveDown_keep]
      refine ⟨whole.keepEarlier same, ?_⟩
      change kept (.add _ _ _ :: .keep _ _ _ :: _) = kept (.keep _ _ _ :: .add _ _ _ :: .keep _ _ _ :: _)
      simp only [kept_keep, kept_add]
      omega

/-- A kept stretch may be joined with the one behind it. -/
theorem keepBehind (count : Nat) (stretch moving : Operation) :
    Leads sides (.keep (stretch.oldStop - count) (moving.newStop - count) count :: operations)
      (Sides.keepBehind count stretch moving operations) := by
  unfold Sides.keepBehind
  split
  next next rest =>
    split
    next isKeep =>
      intro old new walk
      have whole := walk
      cases walk with
      | keep _ walk =>
        cases walk with
        | remove => cases isKeep
        | add => cases isKeep
        | keep =>
          rw [Operation.lengthen_moveUp_keep]
          exact joinKeeps _ _ whole
    next => exact .refl _
  next => exact .refl _

/-- A kept stretch may be joined with the one in front of it. -/
theorem keepBefore (count : Nat) (stretch moving : Operation) (before : List Operation) :
    Leads sides (before.reverse ++ .keep stretch.oldStart moving.newStart count :: operations)
      ((Sides.keepBefore count stretch moving before).reverse ++ operations) := by
  unfold Sides.keepBefore
  split
  next previous earlier =>
    split
    next isKeep =>
      rw [List.reverse_cons, List.reverse_cons, List.append_assoc, List.append_assoc]
      refine behind (fun old new walk => ?_) earlier.reverse
      have whole := walk
      cases walk with
      | remove => cases isKeep
      | add => cases isKeep
      | keep _ walk => exact joinKeeps _ _ whole
    next =>
      simp only [List.reverse_cons, List.append_assoc]
      exact .refl _
  next => exact .refl _

/-- An operation of which nothing is left may be left out. -/
theorem unlessEmpty (operation : Operation) (operations : List Operation) :
    Leads sides (operation :: operations)
      (if operation.isEmpty then operations else operation :: operations) := by
  split
  next empty => exact dropEmpty empty
  next => exact .refl _

end Leads

/-! ### Moving one operation -/

namespace Opened

/-- All operations of an opened list. -/
def all (opened : Opened) : List Operation :=
  opened.before.reverse ++ opened.here :: opened.behind

theorem all_cons (previous here : Operation) (earlier behind : List Operation) :
    all ⟨previous :: earlier, here, behind⟩ = earlier.reverse ++ previous :: here :: behind := by
  rw [all, List.reverse_cons, List.append_assoc]
  rfl

theorem all_unlessEmpty (previous here : Operation) (earlier behind : List Operation) :
    all ⟨if previous.isEmpty then earlier else previous :: earlier, here, behind⟩ =
      earlier.reverse ++ if previous.isEmpty then here :: behind else previous :: here :: behind := by
  split
  · rfl
  · exact all_cons previous here earlier behind

end Opened

namespace Sides

variable (sides : Sides)

/-- One step along a kept stretch before the operation. -/
theorem slideUp_step {previous here : Operation} (isKeep : previous.isKeep = true)
    (moving : here.tag ≠ .equal) (slack : 0 < sides.slackUp previous here)
    (earlier behind : List Operation) :
    Leads sides (earlier.reverse ++ previous :: here :: behind)
      (Opened.all
        ⟨if (previous.shorten (sides.slackUp previous here)).isEmpty then earlier
          else previous.shorten (sides.slackUp previous here) :: earlier,
        here.moveUp (sides.slackUp previous here),
        keepBehind (sides.slackUp previous here) previous here behind⟩) := by
  rw [Opened.all_unlessEmpty]
  refine Leads.behind ?_ earlier.reverse
  refine (Leads.slideUp isKeep moving rfl slack).trans (Leads.trans ?_ (Leads.unlessEmpty _ _))
  exact Leads.behind (Leads.keepBehind _ previous here) [_, _]

theorem slideUp_leads (fuel : Nat) (opened : Opened) (moving : opened.here.tag ≠ .equal) :
    Leads sides opened.all (sides.slideUp fuel opened).all ∧
      (sides.slideUp fuel opened).here.tag = opened.here.tag := by
  induction fuel generalizing opened with
  | zero => exact ⟨.refl _, rfl⟩
  | succ fuel inductionHypothesis =>
    obtain ⟨before, here, behind⟩ := opened
    unfold slideUp
    simp only
    split
    next => exact ⟨.refl _, rfl⟩
    next previous earlier =>
      rw [Opened.all_cons]
      split
      next isKeep =>
        split
        next slack =>
          obtain ⟨leads, tag⟩ := inductionHypothesis
            ⟨if (previous.shorten (sides.slackUp previous here)).isEmpty then earlier
              else previous.shorten (sides.slackUp previous here) :: earlier,
            here.moveUp (sides.slackUp previous here),
            keepBehind (sides.slackUp previous here) previous here behind⟩ moving
          exact ⟨(sides.slideUp_step isKeep moving slack earlier behind).trans leads, tag⟩
        next =>
          split
          next empty =>
            obtain ⟨leads, tag⟩ := inductionHypothesis ⟨earlier, here, behind⟩ moving
            exact ⟨((Leads.dropEmpty empty).behind _).trans leads, tag⟩
          next =>
            rw [Opened.all_cons]
            exact ⟨.refl _, rfl⟩
      next isMoving =>
        have previousMoving : previous.tag ≠ .equal := by simpa [Operation.isKeep] using isMoving
        split
        next sameTag =>
          obtain ⟨leads, tag⟩ :=
            inductionHypothesis ⟨earlier, previous.absorb here, behind⟩ previousMoving
          exact ⟨((Leads.absorb moving sameTag).behind _).trans leads, tag.trans sameTag⟩
        next differentTag =>
          obtain ⟨leads, tag⟩ := inductionHypothesis ⟨earlier, here, previous :: behind⟩ moving
          exact ⟨((Leads.swap previousMoving moving differentTag).behind _).trans leads, tag⟩

/-- One step along a kept stretch behind the operation. -/
theorem slideDown_step {next here : Operation} (isKeep : next.isKeep = true)
    (moving : here.tag ≠ .equal) (slack : 0 < sides.slackDown next here)
    (before later : List Operation) :
    Leads sides (before.reverse ++ here :: next :: later)
      (Opened.all
        ⟨keepBefore (sides.slackDown next here) next here before,
        here.moveDown (sides.slackDown next here),
        if ((next.moveDown (sides.slackDown next here)).shorten (sides.slackDown next here)).isEmpty
          then later
          else (next.moveDown (sides.slackDown next here)).shorten (sides.slackDown next here) ::
            later⟩) := by
  refine (Leads.behind (Leads.slideDown isKeep moving rfl slack) before.reverse).trans ?_
  refine (Leads.keepBefore _ next here before).trans (Leads.behind ?_ _)
  exact Leads.behind (Leads.unlessEmpty _ later) [here.moveDown (sides.slackDown next here)]

theorem slideDown_leads (fuel : Nat) (opened : Opened) (moving : opened.here.tag ≠ .equal) :
    Leads sides opened.all (sides.slideDown fuel opened).all ∧
      (sides.slideDown fuel opened).here.tag = opened.here.tag := by
  induction fuel generalizing opened with
  | zero => exact ⟨.refl _, rfl⟩
  | succ fuel inductionHypothesis =>
    obtain ⟨before, here, behind⟩ := opened
    unfold slideDown
    simp only
    split
    next => exact ⟨.refl _, rfl⟩
    next next later =>
      split
      next isKeep =>
        split
        next slack =>
          obtain ⟨leads, tag⟩ := inductionHypothesis
            ⟨keepBefore (sides.slackDown next here) next here before,
            here.moveDown (sides.slackDown next here),
            if ((next.moveDown (sides.slackDown next here)).shorten
                (sides.slackDown next here)).isEmpty then later
              else (next.moveDown (sides.slackDown next here)).shorten (sides.slackDown next here) ::
                later⟩ moving
          exact ⟨(sides.slideDown_step isKeep moving slack before later).trans leads, tag⟩
        next =>
          split
          next empty =>
            obtain ⟨leads, tag⟩ := inductionHypothesis ⟨before, here, later⟩ moving
            have dropped : Leads sides (here :: next :: later) (here :: later) :=
              Leads.behind (Leads.dropEmpty empty) [here]
            exact ⟨(dropped.behind _).trans leads, tag⟩
          next => exact ⟨.refl _, rfl⟩
      next isMoving =>
        have nextMoving : next.tag ≠ .equal := by simpa [Operation.isKeep] using isMoving
        split
        next sameTag =>
          obtain ⟨leads, tag⟩ := inductionHypothesis ⟨before, here.absorb next, later⟩ moving
          exact ⟨((Leads.absorb nextMoving sameTag.symm).behind _).trans leads, tag⟩
        next differentTag =>
          obtain ⟨leads, tag⟩ := inductionHypothesis ⟨next :: before, here, later⟩ moving
          rw [Opened.all_cons] at leads
          exact ⟨((Leads.swap moving nextMoving (Ne.symm differentTag)).behind _).trans leads, tag⟩

theorem settleOne_leads (opened : Opened) (moving : opened.here.tag ≠ .equal) :
    Leads sides opened.all (sides.settleOne opened).all := by
  obtain ⟨raised, tag⟩ := sides.slideUp_leads (slideFuel opened.before) opened moving
  obtain ⟨lowered, _⟩ := sides.slideDown_leads (slideFuel _) _ (tag ▸ moving)
  exact raised.trans lowered

/-! ### Moving all operations -/

theorem settleTag_leads {tag : Tag} (moving : tag ≠ .equal) (fuel : Nat)
    (before behind : List Operation) :
    Leads sides (before.reverse ++ behind) (sides.settleTag tag fuel before behind) := by
  induction fuel generalizing before behind with
  | zero => exact .refl _
  | succ fuel inductionHypothesis =>
    cases behind with
    | nil =>
      rw [List.append_nil]
      exact .refl _
    | cons operation rest =>
      rw [settleTag]
      split
      next sameTag =>
        have settled := sides.settleOne_leads ⟨before, operation, rest⟩ (sameTag ▸ moving)
        have later := inductionHypothesis
          ((sides.settleOne ⟨before, operation, rest⟩).here ::
            (sides.settleOne ⟨before, operation, rest⟩).before)
          (sides.settleOne ⟨before, operation, rest⟩).behind
        rw [List.reverse_cons, List.append_assoc] at later
        exact settled.trans later
      next =>
        have later := inductionHypothesis (operation :: before) rest
        rw [List.reverse_cons, List.append_assoc] at later
        exact later

/-- Compaction changes nothing about where operations lead to. -/
theorem compact_leads (operations : List Operation) :
    Leads sides operations (sides.compact operations) := by
  have deletions : Tag.delete ≠ .equal := by decide
  have insertions : Tag.insert ≠ .equal := by decide
  exact (sides.settleTag_leads deletions _ [] operations).trans
    (sides.settleTag_leads insertions _ [] _)

/-- Where no operation has the tag, none is moved. -/
theorem settleTag_eq_self {tag : Tag} {behind : List Operation}
    (others : ∀ operation ∈ behind, operation.tag ≠ tag) (fuel : Nat) (before : List Operation) :
    sides.settleTag tag fuel before behind = before.reverse ++ behind := by
  induction fuel generalizing before behind with
  | zero => rfl
  | succ fuel inductionHypothesis =>
    cases behind with
    | nil => exact (List.append_nil _).symm
    | cons operation rest =>
      obtain ⟨other, others⟩ := List.forall_mem_cons.mp others
      rw [settleTag, if_neg other, inductionHypothesis others, List.reverse_cons, List.append_assoc,
        List.singleton_append]

/-- Where everything is kept, compaction changes nothing. -/
theorem compact_eq_self {operations : List Operation}
    (kept : ∀ operation ∈ operations, operation.tag = .equal) :
    sides.compact operations = operations := by
  have others {tag : Tag} (moving : .equal ≠ tag) : ∀ operation ∈ operations, operation.tag ≠ tag :=
    fun operation member => (kept operation member).symm ▸ moving
  have deleted := sides.settleTag_eq_self (others (by decide : .equal ≠ Tag.delete))
  have inserted := sides.settleTag_eq_self (others (by decide : .equal ≠ Tag.insert))
  simp only [compact, deleted, inserted, List.reverse_nil, List.nil_append]

end Sides

end Chunking.Diff
