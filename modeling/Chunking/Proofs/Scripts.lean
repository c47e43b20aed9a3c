/-
Changed ranges as an edit script. Between two kept stretches stands one change, and
what it removes and adds is in place. But the range of a side on which it does
neither is only where an operation was taken to be before it was moved, so it may
stand elsewhere, and changes that then touch by accident are joined. Before that,
the changes are those of an edit script up to such ranges; behind it, they are an
edit script if and only if no range was out of place.
-/

import Chunking.Proofs.EditScript
import Chunking.Proofs.PairedLines

namespace Chunking

/-! ### Changes -/

namespace LineChange

/-- Both ranges run forward, and one of them has lines. -/
def Proper (change : LineChange) : Prop :=
  change.old.start ≤ change.old.stop ∧ change.new.start ≤ change.new.stop ∧
    (change.old.start < change.old.stop ∨ change.new.start < change.new.stop)

/-- In both texts at least one line stands between a change and a later one. -/
def Before (left right : LineChange) : Prop :=
  left.old.stop < right.old.start ∧ left.new.stop < right.new.start

/-- The ranges of two changes are the same, except that empty ones may stand in different places. -/
structure Resembles (left right : LineChange) : Prop where
  old : left.old = right.old ∨
    (left.old.start = left.old.stop ∧ right.old.start = right.old.stop)
  new : left.new = right.new ∨
    (left.new.start = left.new.stop ∧ right.new.start = right.new.stop)

namespace Resembles

variable {left right : LineChange}

theorem proper (resembles : Resembles left right) (proper : right.Proper) : left.Proper := by
  obtain ⟨old, new⟩ := resembles
  unfold Proper at proper ⊢
  rcases old with same | empty <;> rcases new with sameNew | emptyNew
  · rw [same, sameNew]
    exact proper
  · rw [same]
    omega
  · rw [sameNew]
    omega
  · omega

theorem forall_proper {lefts rights : List LineChange}
    (resembles : List.Forall₂ Resembles lefts rights) (proper : ∀ change ∈ rights, change.Proper) :
    ∀ change ∈ lefts, change.Proper := by
  induction resembles with
  | nil => exact proper
  | cons first _ inductionHypothesis =>
    obtain ⟨here, later⟩ := List.forall_mem_cons.mp proper
    exact List.forall_mem_cons.mpr ⟨first.proper here, inductionHypothesis later⟩

/-- One of the ranges is not empty, so it is the same. -/
theorem same (resembles : Resembles left right) (proper : right.Proper) :
    left.old = right.old ∨ left.new = right.new := by
  obtain ⟨old, new⟩ := resembles
  have nonempty := proper.2.2
  rcases old with same | empty
  · exact Or.inl same
  · rcases new with same | emptyNew
    · exact Or.inr same
    · omega

/-- If the changes stand at the same distance from the beginnings of the texts, they are the same. -/
theorem eq (resembles : Resembles left right) (proper : right.Proper)
    (level : left.old.start + right.new.start = right.old.start + left.new.start) :
    left = right := by
  have someSame := resembles.same proper
  obtain ⟨⟨oldStart, oldStop⟩, newStart, newStop⟩ := left
  obtain ⟨⟨otherOldStart, otherOldStop⟩, otherNewStart, otherNewStop⟩ := right
  obtain ⟨old, new⟩ := resembles
  simp only [LineRange.mk.injEq, LineChange.mk.injEq] at *
  omega

end Resembles

end LineChange

/-! ### Edit scripts from the front -/

namespace EditScript

variable {oldAt newAt : Nat} {changes : List LineChange} {old new : List String}

/-- Rows that are kept may be put in front. -/
theorem prepend (kept : List String)
    (script : EditScript (oldAt + kept.length) (newAt + kept.length) changes old new) :
    EditScript oldAt newAt changes (kept ++ old) (kept ++ new) := by
  generalize fromOld : oldAt + kept.length = oldFrom at script
  generalize fromNew : newAt + kept.length = newFrom at script
  cases script with
  | done => exact .done oldAt newAt _
  | @change _ _ more removed added changes old new rest =>
    subst fromOld fromNew
    have whole := @EditScript.change oldAt newAt (kept ++ more) removed added changes old new
    simp only [List.length_append, ← Nat.add_assoc, List.append_assoc] at whole ⊢
    exact whole rest

/-- What the first change of a script says about the rows. -/
theorem of_cons {change : LineChange} (script : EditScript oldAt newAt (change :: changes) old new) :
    ∃ kept removed added oldRest newRest : List String,
      change = ⟨⟨oldAt + kept.length, oldAt + kept.length + removed.length⟩,
        ⟨newAt + kept.length, newAt + kept.length + added.length⟩⟩ ∧
      old = kept ++ removed ++ oldRest ∧ new = kept ++ added ++ newRest ∧
      EditScript (oldAt + kept.length + removed.length) (newAt + kept.length + added.length)
        changes oldRest newRest := by
  cases script with
  | change kept removed added rest => exact ⟨kept, removed, added, _, _, rfl, rfl, rfl, rest⟩

/-- Scripts that begin with the same change go on with the same rows. -/
theorem tail {kept removed added : List String}
    (script : EditScript oldAt newAt
      (⟨⟨oldAt + kept.length, oldAt + kept.length + removed.length⟩,
        ⟨newAt + kept.length, newAt + kept.length + added.length⟩⟩ :: changes)
      (kept ++ removed ++ old) (kept ++ added ++ new)) :
    EditScript (oldAt + kept.length + removed.length) (newAt + kept.length + added.length)
      changes old new := by
  obtain ⟨otherKept, otherRemoved, otherAdded, oldRest, newRest, same, sameOld, sameNew, rest⟩ :=
    script.of_cons
  simp only [LineChange.mk.injEq, LineRange.mk.injEq] at same
  have keptSize : kept.length = otherKept.length := by omega
  have removedSize : removed.length = otherRemoved.length := by omega
  have addedSize : added.length = otherAdded.length := by omega
  have oldSize : (kept ++ removed).length = (otherKept ++ otherRemoved).length := by
    rw [List.length_append, List.length_append, keptSize, removedSize]
  have newSize : (kept ++ added).length = (otherKept ++ otherAdded).length := by
    rw [List.length_append, List.length_append, keptSize, addedSize]
  rw [(List.append_inj sameOld oldSize).2, (List.append_inj sameNew newSize).2, keptSize,
    removedSize, addedSize]
  exact rest

end EditScript

/-! ### Putting new rows in place of old ones -/

/-- The old rows, of which the first has the number `line`, with the new rows of each change in place
of its old rows. -/
def rebuild (new : List String) : (line : Nat) → List LineChange → (old : List String) → List String
  | _, [], old => old
  | line, change :: rest, old =>
    old.take (change.old.start - line) ++ Diff.stretch new change.new.start change.new.size
      ++ rebuild new change.old.stop rest (old.drop (change.old.stop - line))

theorem EditScript.rebuild_eq {oldAt newAt : Nat} {changes : List LineChange}
    {old new : List String} (script : EditScript oldAt newAt changes old new) {whole : List String}
    (part : whole.drop newAt = new) : rebuild whole oldAt changes old = new := by
  induction script with
  | done => rfl
  | @change oldAt newAt kept removed added changes old new rest inductionHypothesis =>
    have front : whole.drop (newAt + kept.length) = added ++ new := by
      rw [← List.drop_drop, part, List.append_assoc, List.drop_left]
    have later : whole.drop (newAt + kept.length + added.length) = new := by
      rw [← List.drop_drop, front, List.drop_left]
    have keptFront : (kept ++ removed ++ old).take (oldAt + kept.length - oldAt) = kept := by
      rw [Nat.add_sub_cancel_left, List.append_assoc, List.take_left]
    have behind : (kept ++ removed ++ old).drop
        (oldAt + kept.length + removed.length - oldAt) = old := by
      rw [Nat.add_assoc, Nat.add_sub_cancel_left, ← List.length_append, List.drop_left]
    rw [rebuild, keptFront, behind, inductionHypothesis later, Diff.stretch, front, LineRange.size,
      Nat.add_sub_cancel_left, List.take_left]

namespace Diff

/-! ### Changes in place of operations -/

/-- From an old and a new token on, the changes `inPlace` are an edit script with a kept token between
any two of them, and the changes `hinted` are the same up to empty ranges. -/
structure StandsFor (sides : Sides) (old new : Nat) (hinted inPlace : List LineChange) : Prop where
  script : EditScript old new inPlace (sides.old.drop old) (sides.new.drop new)
  proper : ∀ change ∈ inPlace, change.Proper
  apart : inPlace.Pairwise LineChange.Before
  resembles : List.Forall₂ LineChange.Resembles hinted inPlace

namespace StandsFor

variable {sides : Sides} {old new : Nat} {hinted inPlace : List LineChange}

theorem done (oldDone : old = sides.old.length) (newDone : new = sides.new.length) :
    StandsFor sides old new [] [] := by
  refine ⟨?_, by simp, .nil, .nil⟩
  rw [oldDone, newDone, List.drop_length, List.drop_length]
  exact .done _ _ []

theorem keep {size : Nat} (same : ∀ count < size, sides.old[old + count]? = sides.new[new + count]?)
    (oldInside : old + size ≤ sides.old.length)
    (later : StandsFor sides (old + size) (new + size) hinted inPlace) :
    StandsFor sides old new hinted inPlace := by
  refine ⟨?_, later.proper, later.apart, later.resembles⟩
  have script := later.script
  rw [← length_stretch oldInside] at script
  have whole := script.prepend
  rw [length_stretch oldInside, stretch_append_drop, stretch_congr same,
    stretch_append_drop] at whole
  exact whole

/-- A change whose ranges are in place unless they are empty, when a kept token comes next. -/
theorem replace {removed added oldStart newStart : Nat} (oldHere : removed = 0 ∨ oldStart = old)
    (newHere : added = 0 ∨ newStart = new) (nonempty : 0 < removed + added)
    (oldInside : old + removed ≤ sides.old.length) (newInside : new + added ≤ sides.new.length)
    (later : StandsFor sides (old + removed) (new + added) hinted inPlace)
    (ahead : ∀ change ∈ inPlace, old + removed < change.old.start ∧ new + added < change.new.start) :
    StandsFor sides old new
      (⟨⟨oldStart, oldStart + removed⟩, ⟨newStart, newStart + added⟩⟩ :: hinted)
      (⟨⟨old, old + removed⟩, ⟨new, new + added⟩⟩ :: inPlace) := by
  refine ⟨?_, ?_, List.pairwise_cons.mpr ⟨ahead, later.apart⟩, .cons ⟨?_, ?_⟩ later.resembles⟩
  · have script := @EditScript.change old new [] (stretch sides.old old removed)
      (stretch sides.new new added) inPlace (sides.old.drop (old + removed))
      (sides.new.drop (new + added))
    simp only [List.length_nil, Nat.add_zero, List.nil_append, length_stretch oldInside,
      length_stretch newInside, stretch_append_drop] at script
    exact script later.script
  · refine List.forall_mem_cons.mpr ⟨?_, later.proper⟩
    simp only [LineChange.Proper]
    omega
  · rcases oldHere with rfl | rfl
    · exact Or.inr ⟨rfl, rfl⟩
    · exact Or.inl rfl
  · rcases newHere with rfl | rfl
    · exact Or.inr ⟨rfl, rfl⟩
    · exact Or.inl rfl

end StandsFor

/-- Flushing pending operations puts a change in front of what comes behind a kept token. -/
theorem Pending.Tagged.flush_standsFor {sides : Sides} {pending : Pending} (tagged : pending.Tagged)
    {rest : List Operation} {old new : Nat} (solid : Solid pending.operations)
    (walk : Walk sides old new (pending.operations ++ rest)) :
    ∃ oldNext newNext, Walk sides oldNext newNext rest ∧
      ∀ {hinted inPlace : List LineChange}, StandsFor sides oldNext newNext hinted inPlace →
        (∀ change ∈ inPlace, oldNext < change.old.start ∧ newNext < change.new.start) →
        ∃ whole, StandsFor sides old new (pending.flush ++ hinted) whole := by
  rcases tagged.flush_eq walk with ⟨nothing, walk⟩ |
    ⟨removed, added, oldStart, newStart, one, oldHere, newHere, _, _, nonempty, walk⟩
  · refine ⟨old, new, walk, fun {hinted inPlace} later _ => ⟨inPlace, ?_⟩⟩
    rw [nothing]
    exact later
  · have bounds := walk.kept_le
    refine ⟨old + removed, new + added, walk, fun later ahead => ?_⟩
    rw [one]
    exact ⟨_, .replace oldHere newHere (nonempty solid) (Nat.le_of_add_right_le bounds.1)
      (Nat.le_of_add_right_le bounds.2) later ahead⟩

theorem Pending.take_solid {pending : Pending} {operation : Operation} {rest : List Operation}
    (solid : Solid (pending.operations ++ operation :: rest)) :
    Solid ((pending.take operation).operations ++ rest) := by
  obtain ⟨deletion, insertion⟩ := pending
  simp only [Pending.operations, Solid.append, Solid.cons] at solid ⊢
  obtain ⟨⟨deletionSolid, insertionSolid⟩, here, restSolid⟩ := solid
  have joined {pending : Option Operation} (solid : Solid pending.toList) :
      Solid (Pending.join pending operation).toList := by
    cases pending with
    | none => exact Solid.cons.mpr ⟨here, .nil⟩
    | some first =>
      exact Solid.cons.mpr ⟨first.isEmpty_absorb operation (Solid.cons.mp solid).1, .nil⟩
  unfold Pending.take
  split
  · exact ⟨⟨joined deletionSolid, insertionSolid⟩, restSolid⟩
  · exact ⟨⟨deletionSolid, joined insertionSolid⟩, restSolid⟩
  · exact ⟨⟨deletionSolid, insertionSolid⟩, restSolid⟩

/-- Gathered between kept stretches, operations give the changes of an edit script up to empty
ranges. -/
theorem changesFrom_standsFor {sides : Sides} {pending : Pending} (tagged : pending.Tagged)
    {operations : List Operation} {old new : Nat} (solid : Solid (pending.operations ++ operations))
    (walk : Walk sides old new (pending.operations ++ operations)) :
    ∃ inPlace, StandsFor sides old new (changesFrom pending operations) inPlace := by
  induction operations generalizing pending old new with
  | nil =>
    obtain ⟨oldNext, newNext, walk, put⟩ := tagged.flush_standsFor (Solid.append.mp solid).1 walk
    cases walk with
    | done oldDone newDone =>
      rw [changesFrom, ← List.append_nil pending.flush]
      exact put (.done oldDone newDone) (by simp)
  | cons operation rest inductionHypothesis =>
    rw [changesFrom]
    split
    next isKeep =>
      obtain ⟨pendingSolid, keepSolid⟩ := Solid.append.mp solid
      obtain ⟨operationSolid, restSolid⟩ := Solid.cons.mp keepSolid
      obtain ⟨oldNext, newNext, walk, put⟩ := tagged.flush_standsFor pendingSolid walk
      cases walk with
      | remove => cases isKeep
      | add => cases isKeep
      | @keep _ _ size _ same walk =>
        have positive : 0 < size := by
          simpa [Operation.isEmpty, Operation.keep, Nat.pos_iff_ne_zero] using operationSolid
        have bounds := walk.kept_le
        -- The script to come begins behind the kept stretch, so none of its changes touches this one.
        obtain ⟨inPlace, later⟩ := inductionHypothesis Pending.tagged_empty restSolid walk
        refine put (later.keep same (Nat.le_of_add_right_le bounds.1)) fun change member => ?_
        have oldLater := (later.script.old_bounds member).1
        have newLater := (later.script.new_bounds member).1
        omega
    next isMoving =>
      have moving : operation.tag ≠ .equal := by simpa [Operation.isKeep] using isMoving
      obtain ⟨stillTagged, leads⟩ := tagged.take moving
      exact inductionHypothesis stillTagged (Pending.take_solid solid) (leads old new walk).1

/-! ### Joining -/

/-- Joining moves no beginning of the first change. -/
theorem joinTouching_cons (change : LineChange) (rest : List LineChange) :
    ∃ oldStop newStop others, joinTouching (change :: rest) =
      ⟨⟨change.old.start, oldStop⟩, ⟨change.new.start, newStop⟩⟩ :: others := by
  rw [joinTouching]
  split
  · exact ⟨_, _, _, rfl⟩
  · split <;> exact ⟨_, _, _, rfl⟩

/-- A change that the next one does not touch stays as it is. -/
theorem joinTouching_cons_of_apart {change : LineChange} {rest : List LineChange}
    (apart : ∀ next ∈ rest.head?,
      ¬ (change.old.stop = next.old.start ∧ change.new.stop = next.new.start)) :
    joinTouching (change :: rest) = change :: joinTouching rest := by
  cases rest with
  | nil => rfl
  | cons next others =>
    obtain ⟨oldStop, newStop, joined, first⟩ := joinTouching_cons next others
    rw [joinTouching, first]
    exact if_neg (apart next rfl)

theorem joinTouching_eq_self {changes : List LineChange}
    (apart : changes.Pairwise LineChange.Before) : joinTouching changes = changes := by
  induction changes with
  | nil => rfl
  | cons change rest inductionHypothesis =>
    obtain ⟨here, later⟩ := List.pairwise_cons.mp apart
    rw [joinTouching_cons_of_apart, inductionHypothesis later]
    rintro next first ⟨touch, _⟩
    have before := (here next (List.mem_of_mem_head? first)).1
    omega

theorem joinTouching_proper {changes : List LineChange}
    (proper : ∀ change ∈ changes, change.Proper) :
    ∀ change ∈ joinTouching changes, change.Proper := by
  induction changes with
  | nil => exact proper
  | cons change rest inductionHypothesis =>
    obtain ⟨here, later⟩ := List.forall_mem_cons.mp proper
    have laterProper := inductionHypothesis later
    rw [joinTouching]
    split
    next => exact List.forall_mem_singleton.mpr here
    next next others joined =>
      rw [joined] at laterProper
      obtain ⟨nextProper, othersProper⟩ := List.forall_mem_cons.mp laterProper
      split
      next touch =>
        refine List.forall_mem_cons.mpr ⟨?_, othersProper⟩
        simp only [LineChange.Proper] at here nextProper ⊢
        omega
      next => exact List.forall_mem_cons.mpr ⟨here, laterProper⟩

namespace StandsFor

variable {hinted inPlace : List LineChange}

/-- No change that is in place touches the next one, wherever the empty range of that one stands. -/
theorem joinTouching_cons {change : LineChange}
    (proper : ∀ change ∈ inPlace, change.Proper) (ahead : ∀ next ∈ inPlace, change.Before next)
    (resembles : List.Forall₂ LineChange.Resembles hinted inPlace) :
    joinTouching (change :: hinted) = change :: joinTouching hinted := by
  refine joinTouching_cons_of_apart fun next first touch => ?_
  cases resembles with
  | nil => cases first
  | @cons _ nextInPlace _ _ resembles _ =>
    cases first
    have before := ahead nextInPlace List.mem_cons_self
    unfold LineChange.Before at before
    rcases resembles.same (proper nextInPlace List.mem_cons_self) with same | same
    · rw [same] at touch
      omega
    · rw [same] at touch
      omega

/-- If changes that are joined are an edit script, no range was out of place. -/
theorem eq_of_script {oldAt newAt : Nat} {old new : List String}
    (script : EditScript oldAt newAt inPlace old new) (proper : ∀ change ∈ inPlace, change.Proper)
    (apart : inPlace.Pairwise LineChange.Before)
    (resembles : List.Forall₂ LineChange.Resembles hinted inPlace)
    (joined : EditScript oldAt newAt (joinTouching hinted) old new) : hinted = inPlace := by
  induction script generalizing hinted with
  | done => cases resembles; rfl
  | @change oldAt newAt kept removed added changes old new rest inductionHypothesis =>
    obtain ⟨here, later⟩ := List.forall_mem_cons.mp proper
    obtain ⟨ahead, laterApart⟩ := List.pairwise_cons.mp apart
    cases resembles with
    | @cons change _ others _ first resembles =>
      -- Both lists begin with a change at the same distance from where the scripts begin.
      have same := first.eq here (by
        obtain ⟨oldStop, newStop, others, head⟩ := Diff.joinTouching_cons change others
        rw [head] at joined
        obtain ⟨otherKept, _, _, _, _, same, _⟩ := joined.of_cons
        simp only [LineChange.mk.injEq, LineRange.mk.injEq] at same
        dsimp only
        omega)
      subst same
      rw [joinTouching_cons later ahead resembles] at joined
      rw [inductionHypothesis later laterApart resembles joined.tail]

end StandsFor

/-! ### Detection -/

theorem flatten_cutTokens (chars : List Char) : (cutTokens chars).flatten = chars := by
  induction chars with
  | nil => rfl
  | cons char rest inductionHypothesis =>
    rw [cutTokens_step]
    split
    · rw [List.flatten_cons, inductionHypothesis, List.singleton_append]
    · cases cut : cutTokens rest with
      | nil => rw [cutTokens_eq_nil.mp cut]; rfl
      | cons token tokens =>
        rw [cut, List.flatten_cons] at inductionHypothesis
        rw [Text.extend, List.flatten_cons, List.cons_append, inductionHypothesis]

theorem join_tokens (text : String) : String.join (tokens text) = text := by
  rw [← String.toList_inj, String.toList_join, tokens, List.flatMap_map]
  simp only [String.toList_ofList, List.flatMap_id']
  exact flatten_cutTokens text.toList

/-- The changes lead from the tokens of one text to those of another, none of them concerns nothing,
and with a kept token between any two of them none is cut in two. -/
structure Scripts (changes : List LineChange) (old new : String) : Prop where
  script : EditScript 0 0 changes (tokens old) (tokens new)
  proper : ∀ change ∈ changes, change.Proper
  apart : changes.Pairwise LineChange.Before
  /-- Put in place of the old tokens, the new tokens of all changes give the new text. -/
  rebuilt : String.join (rebuild (tokens new) 0 changes (tokens old)) = new

/-- What is gathered from a comparison leads from one list to the other, up to empty ranges. -/
theorem gathered_standsFor (deadline : Deadline) (old new : List String) :
    ∃ inPlace, StandsFor ⟨old, new⟩ 0 0 (gathered deadline old new) inPlace := by
  have walk := (Sides.compact_leads ⟨old, new⟩ (compare deadline old new) 0 0
    (compare_walk deadline old new)).1
  have solid := Sides.compact_solid ⟨old, new⟩ (compare_solid deadline old new)
  exact changesFrom_standsFor Pending.tagged_empty solid walk

namespace StandsFor

variable {old new : String} {hinted inPlace : List LineChange}

theorem scripts (standsFor : StandsFor ⟨tokens old, tokens new⟩ 0 0 hinted inPlace) :
    Scripts inPlace old new := by
  refine ⟨standsFor.script, standsFor.proper, standsFor.apart, ?_⟩
  have rebuilt : rebuild (tokens new) 0 inPlace (tokens old) = tokens new :=
    standsFor.script.rebuild_eq rfl
  rw [rebuilt, join_tokens]

/-- Of two texts that differ, some tokens do. -/
theorem joinTouching_eq_nil (standsFor : StandsFor ⟨tokens old, tokens new⟩ 0 0 hinted inPlace)
    (nothing : joinTouching hinted = []) : old = new := by
  have script := standsFor.script
  cases standsFor.resembles with
  | nil =>
    rw [← join_tokens old, ← join_tokens new]
    generalize tokens old = oldTokens at script
    generalize tokens new = newTokens at script
    cases script
    rfl
  | cons =>
    obtain ⟨_, _, _, some⟩ := Diff.joinTouching_cons _ _
    rw [some] at nothing
    cases nothing

end StandsFor

/-- Whenever the time is up, there are changes just if the texts differ, each of them concerns some
tokens, and the tokens outside of them pair off. They are what is gathered from the comparison, with
those joined that touch. What is gathered is an edit script up to the places of empty ranges, and the
changes are an edit script if and only if each empty range stands where that one has it. -/
theorem detect_scripts_iff {deadline : Deadline} {old new : String} {changes : List LineChange}
    (detected : detect deadline old new = .ok changes) :
    (changes = [] ↔ old = new) ∧ (∀ change ∈ changes, change.Proper) ∧
      PairsOff changes (tokens old) (tokens new) ∧
      changes = joinTouching (gathered deadline (tokens old) (tokens new)) ∧
      ∃ inPlace,
        List.Forall₂ LineChange.Resembles (gathered deadline (tokens old) (tokens new)) inPlace ∧
        Scripts inPlace old new ∧
        (Scripts changes old new ↔ gathered deadline (tokens old) (tokens new) = inPlace) := by
  have joined := detect_eq_ok detected
  obtain ⟨inPlace, standsFor⟩ := gathered_standsFor deadline (tokens old) (tokens new)
  have proper := LineChange.Resembles.forall_proper standsFor.resembles standsFor.proper
  refine ⟨⟨fun nothing => standsFor.joinTouching_eq_nil (joined.symm.trans nothing), ?_⟩,
    joined ▸ joinTouching_proper proper, detect_pairsOff detected, joined, inPlace,
    standsFor.resembles, standsFor.scripts, fun scripts => ?_, fun same => ?_⟩
  · intro same
    rw [detect, if_pos same] at detected
    cases detected
    rfl
  · exact StandsFor.eq_of_script standsFor.script standsFor.proper standsFor.apart
      standsFor.resembles (joined ▸ scripts.script)
  · rw [joined, same, joinTouching_eq_self standsFor.apart]
    exact standsFor.scripts

/-- The insertion of two lines behind the last old one is taken to stand behind the deletion of the
first one, so both are joined to a change that does not lead to the new text. -/
theorem detect_scripts_iff_astray :
    detect .ample "a\nb\n" "b\nb\na\n" = .ok [⟨⟨0, 1⟩, ⟨1, 3⟩⟩] ∧
      rebuild (tokens "b\nb\na\n") 0 [⟨⟨0, 1⟩, ⟨1, 3⟩⟩] (tokens "a\nb\n") = ["b\n", "a\n", "b\n"] ∧
      ¬ Scripts [⟨⟨0, 1⟩, ⟨1, 3⟩⟩] "a\nb\n" "b\nb\na\n" ∧
      ∃ inPlace, Scripts inPlace "a\nb\n" "b\nb\na\n" ∧
        List.Forall₂ LineChange.Resembles
          (gathered .ample (tokens "a\nb\n") (tokens "b\nb\na\n")) inPlace ∧
        gathered .ample (tokens "a\nb\n") (tokens "b\nb\na\n") ≠ inPlace := by
  have detected : detect .ample "a\nb\n" "b\nb\na\n" = .ok [⟨⟨0, 1⟩, ⟨1, 3⟩⟩] := rfl
  have rebuilt : rebuild (tokens "b\nb\na\n") 0 [⟨⟨0, 1⟩, ⟨1, 3⟩⟩] (tokens "a\nb\n") =
      ["b\n", "a\n", "b\n"] := by decide
  have unscripted : ¬ Scripts [⟨⟨0, 1⟩, ⟨1, 3⟩⟩] "a\nb\n" "b\nb\na\n" := by
    intro scripts
    have differs := scripts.rebuilt
    rw [rebuilt] at differs
    exact absurd differs (by decide)
  obtain ⟨_, _, _, _, inPlace, resembles, scripts, iff⟩ := detect_scripts_iff detected
  exact ⟨detected, rebuilt, unscripted, inPlace, scripts, resembles,
    fun same => unscripted (iff.mpr same)⟩

/-- If the time is up when it is asked for the fourth time, the first change is found and everything
behind the second line is taken for one. -/
example :
    detect ⟨fun asked => 3 ≤ asked⟩ "a\na\na\nb\n" "b\na\nb\nc\n" =
        .ok [⟨⟨0, 1⟩, ⟨0, 1⟩⟩, ⟨⟨2, 4⟩, ⟨2, 4⟩⟩] ∧
      detect .ample "a\na\na\nb\n" "b\na\nb\nc\n" =
        .ok [⟨⟨0, 1⟩, ⟨0, 1⟩⟩, ⟨⟨2, 3⟩, ⟨2, 2⟩⟩, ⟨⟨4, 4⟩, ⟨3, 4⟩⟩] :=
  ⟨rfl, rfl⟩

end Diff

end Chunking
