/-
Changed ranges against the lines of both texts. The rows outside of all ranges are
the rows that were kept, so on both sides they are the same ones. This holds of
the tokens that were compared; it carries over to the lines of the line index
where these are the tokens, that is, as long as no carriage return stands inside
of a line. If one of the two texts has such a carriage return and the other has
none, it never carries over: the ranges leave over more tokens than there are
lines, and the other text has no lines to pair them with.
-/

import Chunking.Diff.Detect
import Chunking.Proofs.Operations
import Chunking.Proofs.Tokens

namespace Chunking

/-! ### Rows outside of ranges -/

/-- A line, counted from zero, lies in one of the ranges. -/
def Covered (ranges : List LineRange) (line : Nat) : Prop :=
  ∃ range ∈ ranges, range.start ≤ line ∧ line < range.stop

instance (ranges : List LineRange) (line : Nat) : Decidable (Covered ranges line) :=
  inferInstanceAs (Decidable (∃ range ∈ ranges, range.start ≤ line ∧ line < range.stop))

/-- The rows that lie in none of the ranges, where the first row has the number `line`. -/
def outside (ranges : List LineRange) : (line : Nat) → (rows : List String) → List String
  | _, [] => []
  | line, row :: rest =>
    if Covered ranges line then outside ranges (line + 1) rest
    else row :: outside ranges (line + 1) rest

/-- The ranges of the changes end inside of both lists of rows, and the rows outside of them pair
off one to one, in order and with equal contents. -/
structure PairsOff (changes : List LineChange) (old new : List String) : Prop where
  oldInside : ∀ change ∈ changes, change.old.stop ≤ old.length
  newInside : ∀ change ∈ changes, change.new.stop ≤ new.length
  same : outside (changes.map (·.old)) 0 old = outside (changes.map (·.new)) 0 new

theorem covered_cons (range : LineRange) (ranges : List LineRange) (line : Nat) :
    Covered (range :: ranges) line ↔
      (range.start ≤ line ∧ line < range.stop) ∨ Covered ranges line :=
  List.exists_mem_cons_iff _ _ _

theorem covered_cons_congr {range : LineRange} {first second : List LineRange} {line : Nat}
    (alike : Covered first line ↔ Covered second line) :
    Covered (range :: first) line ↔ Covered (range :: second) line := by
  rw [covered_cons, covered_cons, alike]

theorem covered_append (first second : List LineRange) (line : Nat) :
    Covered (first ++ second) line ↔ Covered first line ∨ Covered second line := by
  simp only [Covered, List.mem_append, or_and_right, exists_or]

theorem outside_congr {first second : List LineRange} {line : Nat} (rows : List String)
    (alike : ∀ other, line ≤ other → (Covered first other ↔ Covered second other)) :
    outside first line rows = outside second line rows := by
  induction rows generalizing line with
  | nil => rfl
  | cons row rest inductionHypothesis =>
    have later := inductionHypothesis fun other bound => alike other (Nat.le_of_succ_le bound)
    simp only [outside, alike line (Nat.le_refl line), later]

/-- Rows at the front that all are covered are passed over. -/
theorem outside_covered {ranges : List LineRange} {line size : Nat} (rows : List String)
    (covered : ∀ other, line ≤ other → other < line + size → Covered ranges other) :
    outside ranges line rows = outside ranges (line + size) (rows.drop size) := by
  induction size generalizing line rows with
  | zero => rfl
  | succ size inductionHypothesis =>
    cases rows with
    | nil => rfl
    | cons row rest =>
      rw [outside, if_pos (covered line (Nat.le_refl line) (by omega)), List.drop_succ_cons,
        inductionHypothesis rest fun other after before => covered other (by omega) (by omega),
        Nat.add_right_comm, Nat.add_assoc]

/-- Rows at the front of which none is covered are kept. -/
theorem outside_uncovered {ranges : List LineRange} {line size : Nat} (rows : List String)
    (uncovered : ∀ other, line ≤ other → other < line + size → ¬ Covered ranges other) :
    outside ranges line rows =
      rows.take size ++ outside ranges (line + size) (rows.drop size) := by
  induction size generalizing line rows with
  | zero => rfl
  | succ size inductionHypothesis =>
    cases rows with
    | nil => rfl
    | cons row rest =>
      rw [outside, if_neg (uncovered line (Nat.le_refl line) (by omega)), List.drop_succ_cons,
        inductionHypothesis rest fun other after before => uncovered other (by omega) (by omega),
        Nat.add_right_comm, Nat.add_assoc]
      rfl

/-- Ranges that cover a stretch at the front have no effect behind it. -/
theorem outside_append {first second : List LineRange} {line size : Nat} (rows : List String)
    (covers : ∀ other, Covered first other ↔ line ≤ other ∧ other < line + size) :
    outside (first ++ second) line rows = outside second (line + size) (rows.drop size) := by
  rw [outside_covered rows fun other after before =>
    (covered_append first second other).mpr (Or.inl ((covers other).mpr ⟨after, before⟩))]
  refine outside_congr _ fun other after => ?_
  rw [covered_append, covers]
  exact or_iff_right fun inside => absurd inside.2 (Nat.not_lt_of_le after)

/-- Where ranges end inside of some rows, further rows are left over. -/
theorem length_outside_lt {ranges : List LineRange} {line : Nat} {shorter longer : List String}
    (inside : ∀ range ∈ ranges, range.stop ≤ line + shorter.length)
    (fewer : shorter.length < longer.length) :
    (outside ranges line shorter).length < (outside ranges line longer).length := by
  induction shorter generalizing line longer with
  | nil =>
    cases longer with
    | nil => exact absurd fewer (Nat.lt_irrefl _)
    | cons row rest =>
      have uncovered : ¬ Covered ranges line := by
        rintro ⟨range, member, _, before⟩
        exact absurd before (Nat.not_lt_of_le (inside range member))
      rw [outside, outside, if_neg uncovered]
      exact Nat.succ_pos _
  | cons row rest inductionHypothesis =>
    cases longer with
    | nil => exact absurd fewer (Nat.not_lt_zero _)
    | cons other others =>
      have behind : ∀ range ∈ ranges, range.stop ≤ line + 1 + rest.length := by
        intro range member
        rw [Nat.add_assoc, Nat.add_comm 1]
        exact inside range member
      have later := inductionHypothesis behind (Nat.lt_of_succ_lt_succ fewer)
      rw [outside, outside]
      split
      · exact later
      · exact Nat.succ_lt_succ later

namespace PairsOff

variable {changes : List LineChange} {old new : List String}

/-- Where some new rows pair off with the old ones, no longer list of rows does. -/
theorem length_new {longer : List String} (first : PairsOff changes old new)
    (second : PairsOff changes old longer) : ¬ new.length < longer.length := by
  intro fewer
  have inside : ∀ range ∈ changes.map (·.new), range.stop ≤ 0 + new.length := by
    simpa using first.newInside
  have more := length_outside_lt inside fewer
  rw [← first.same, ← second.same] at more
  exact Nat.lt_irrefl _ more

theorem length_old {longer : List String} (first : PairsOff changes old new)
    (second : PairsOff changes longer new) : ¬ old.length < longer.length := by
  intro fewer
  have inside : ∀ range ∈ changes.map (·.old), range.stop ≤ 0 + old.length := by
    simpa using first.oldInside
  have more := length_outside_lt inside fewer
  rw [first.same, second.same] at more
  exact Nat.lt_irrefl _ more

end PairsOff

namespace Diff

/-! ### Changes between kept stretches -/

/-- A range runs forward and ends inside of so many lines. -/
def EndsWithin (range : LineRange) (limit : Nat) : Prop :=
  range.start ≤ range.stop ∧ range.stop ≤ limit

/-- Both ranges of a change do so in their token lists. -/
def Sides.Holds (sides : Sides) (change : LineChange) : Prop :=
  EndsWithin change.old sides.old.length ∧ EndsWithin change.new sides.new.length

/-- From an old and a new token on, the tokens outside of the changes pair off. -/
structure Describes (sides : Sides) (old new : Nat) (changes : List LineChange) : Prop where
  held : ∀ change ∈ changes, sides.Holds change
  oldLater : ∀ line, Covered (changes.map (·.old)) line → old ≤ line
  newLater : ∀ line, Covered (changes.map (·.new)) line → new ≤ line
  same : outside (changes.map (·.old)) old (sides.old.drop old) =
    outside (changes.map (·.new)) new (sides.new.drop new)

/-- Changes in place of which so many tokens were removed and added. -/
structure Replaces (sides : Sides) (old new removed added : Nat) (changes : List LineChange) :
    Prop where
  held : ∀ change ∈ changes, sides.Holds change
  oldCovered : ∀ line, Covered (changes.map (·.old)) line ↔ old ≤ line ∧ line < old + removed
  newCovered : ∀ line, Covered (changes.map (·.new)) line ↔ new ≤ line ∧ line < new + added

namespace Replaces

variable {sides : Sides} {old new : Nat}

theorem nothing : Replaces sides old new 0 0 [] := by
  refine ⟨by simp, fun line => ?_, fun line => ?_⟩ <;>
    exact iff_of_false (by simp [Covered]) (by omega)

/-- One change, with ranges that are in place unless they are empty. -/
theorem one {removed added oldStart newStart : Nat} (oldHere : removed = 0 ∨ oldStart = old)
    (newHere : added = 0 ∨ newStart = new) (oldInside : oldStart + removed ≤ sides.old.length)
    (newInside : newStart + added ≤ sides.new.length) :
    Replaces sides old new removed added
      [⟨⟨oldStart, oldStart + removed⟩, ⟨newStart, newStart + added⟩⟩] := by
  refine ⟨?_, fun line => ?_, fun line => ?_⟩
  · simp [Sides.Holds, EndsWithin, oldInside, newInside]
  · simp only [Covered, List.map_cons, List.map_nil, List.mem_singleton, exists_eq_left]
    omega
  · simp only [Covered, List.map_cons, List.map_nil, List.mem_singleton, exists_eq_left]
    omega

end Replaces

namespace Describes

variable {sides : Sides} {old new : Nat} {changes later : List LineChange}

theorem done (oldDone : old = sides.old.length) (newDone : new = sides.new.length) :
    Describes sides old new [] := by
  refine ⟨by simp, by simp [Covered], by simp [Covered], ?_⟩
  rw [oldDone, newDone, List.drop_length, List.drop_length]
  rfl

theorem keep {size : Nat} (same : ∀ count < size, sides.old[old + count]? = sides.new[new + count]?)
    (later : Describes sides (old + size) (new + size) changes) : Describes sides old new changes := by
  have front : (sides.old.drop old).take size = (sides.new.drop new).take size := stretch_congr same
  refine ⟨later.held, fun line covered => Nat.le_of_add_right_le (later.oldLater line covered),
    fun line covered => Nat.le_of_add_right_le (later.newLater line covered), ?_⟩
  rw [outside_uncovered _ fun other _ before covered =>
      absurd before (Nat.not_lt_of_le (later.oldLater other covered)),
    outside_uncovered _ fun other _ before covered =>
      absurd before (Nat.not_lt_of_le (later.newLater other covered)),
    front, List.drop_drop, List.drop_drop, later.same]

theorem replace {removed added : Nat} (replaces : Replaces sides old new removed added changes)
    (describes : Describes sides (old + removed) (new + added) later) :
    Describes sides old new (changes ++ later) := by
  refine ⟨fun change member => ?_, fun line covered => ?_, fun line covered => ?_, ?_⟩
  · exact (List.mem_append.mp member).elim (replaces.held change) (describes.held change)
  · rw [List.map_append, covered_append, replaces.oldCovered] at covered
    exact covered.elim (·.1) fun inLater => Nat.le_of_add_right_le (describes.oldLater line inLater)
  · rw [List.map_append, covered_append, replaces.newCovered] at covered
    exact covered.elim (·.1) fun inLater => Nat.le_of_add_right_le (describes.newLater line inLater)
  · rw [List.map_append, List.map_append, outside_append _ replaces.oldCovered,
      outside_append _ replaces.newCovered, List.drop_drop, List.drop_drop, describes.same]

end Describes

/-! ### Pending operations -/

namespace Pending

/-- The operations that are pending, the deletion first. -/
def operations (pending : Pending) : List Operation :=
  pending.deletion.toList ++ pending.insertion.toList

structure Tagged (pending : Pending) : Prop where
  deletion : ∀ operation ∈ pending.deletion, operation.tag = .delete
  insertion : ∀ operation ∈ pending.insertion, operation.tag = .insert

theorem tagged_empty : Tagged {} :=
  ⟨by simp, by simp⟩

variable {sides : Sides} {pending : Pending} {operation : Operation} {rest : List Operation}

/-- A deletion may be taken in front of a pending insertion. -/
theorem Tagged.swap (tagged : pending.Tagged) (deletes : operation.tag = .delete) :
    Leads sides (pending.insertion.toList ++ operation :: rest)
      (operation :: (pending.insertion.toList ++ rest)) := by
  cases inserted : pending.insertion with
  | none => exact .refl _
  | some insertion =>
    have tag := tagged.insertion insertion inserted
    exact Leads.swap (by rw [tag]; decide) (by rw [deletes]; decide) (by rw [tag, deletes]; decide)

/-- Taking up an operation, the pending ones lead on with the rest. -/
theorem Tagged.take (tagged : pending.Tagged) (moving : operation.tag ≠ .equal) :
    (pending.take operation).Tagged ∧
      Leads sides (pending.operations ++ operation :: rest)
        ((pending.take operation).operations ++ rest) := by
  unfold Pending.take operations
  cases tag : operation.tag with
  | equal => exact absurd tag moving
  | delete =>
    rw [List.append_assoc, List.append_assoc]
    have swapped : Leads sides
        (pending.deletion.toList ++ (pending.insertion.toList ++ operation :: rest))
        (pending.deletion.toList ++ operation :: (pending.insertion.toList ++ rest)) :=
      (tagged.swap tag).behind _
    cases deleted : pending.deletion with
    | none =>
      rw [deleted] at swapped
      exact ⟨⟨by simpa [join] using tag, tagged.insertion⟩, swapped⟩
    | some deletion =>
      rw [deleted] at swapped
      have deletes := tagged.deletion deletion deleted
      exact ⟨⟨by simpa [join, Operation.absorb] using deletes, tagged.insertion⟩,
        swapped.trans (Leads.absorb moving (deletes.trans tag.symm))⟩
  | insert =>
    rw [List.append_assoc, List.append_assoc]
    cases inserted : pending.insertion with
    | none => exact ⟨⟨tagged.deletion, by simpa [join] using tag⟩, .refl _⟩
    | some insertion =>
      have inserts := tagged.insertion insertion inserted
      exact ⟨⟨tagged.deletion, by simpa [join, Operation.absorb] using inserts⟩,
        (Leads.absorb moving (inserts.trans tag.symm)).behind _⟩

/-- Flushing pending operations gives at most one change, in place of what they remove and add. The
range of a side on which they do neither may stand anywhere. -/
theorem Tagged.flush_eq (tagged : pending.Tagged) {old new : Nat}
    (walk : Walk sides old new (pending.operations ++ rest)) :
    (pending.flush = [] ∧ Walk sides old new rest) ∨
      ∃ removed added oldStart newStart,
        pending.flush = [⟨⟨oldStart, oldStart + removed⟩, ⟨newStart, newStart + added⟩⟩] ∧
        (removed = 0 ∨ oldStart = old) ∧ (added = 0 ∨ newStart = new) ∧
        oldStart + removed ≤ sides.old.length ∧ newStart + added ≤ sides.new.length ∧
        (Solid pending.operations → 0 < removed + added) ∧
        Walk sides (old + removed) (new + added) rest := by
  obtain ⟨deletion, insertion⟩ := pending
  cases deletion with
  | none =>
    cases insertion with
    | none => exact Or.inl ⟨rfl, walk⟩
    | some insertion =>
      obtain ⟨oldStart, added, rfl, inside, walk⟩ := walk.of_insert (tagged.insertion _ rfl)
      have bounds := walk.kept_le
      refine Or.inr ⟨0, added, oldStart, new, rfl, Or.inl rfl, Or.inr rfl, inside,
        Nat.le_of_add_right_le bounds.2, fun solid => ?_, walk⟩
      simpa [operations, Solid, Operation.isEmpty, Operation.add, Nat.pos_iff_ne_zero] using solid
  | some deletion =>
    obtain ⟨newStart, removed, rfl, inside, walk⟩ := walk.of_delete (tagged.deletion _ rfl)
    have positive : (Operation.remove old newStart removed).isEmpty = false → 0 < removed := by
      simp [Operation.isEmpty, Operation.remove, Nat.pos_iff_ne_zero]
    cases insertion with
    | none =>
      have bounds := walk.kept_le
      exact Or.inr ⟨removed, 0, old, newStart, rfl, Or.inr rfl, Or.inl rfl,
        Nat.le_of_add_right_le bounds.1, inside, fun solid => positive (solid _ List.mem_cons_self),
        walk⟩
    | some insertion =>
      obtain ⟨oldStart, added, rfl, _, walk⟩ := walk.of_insert (tagged.insertion _ rfl)
      have bounds := walk.kept_le
      exact Or.inr ⟨removed, added, old, new, rfl, Or.inr rfl, Or.inr rfl,
        Nat.le_of_add_right_le bounds.1, Nat.le_of_add_right_le bounds.2,
        fun solid => Nat.add_pos_left (positive (solid _ List.mem_cons_self)) _, walk⟩

/-- Flushing pending operations replaces what they remove by what they add. -/
theorem Tagged.flush (tagged : pending.Tagged) {old new : Nat}
    (walk : Walk sides old new (pending.operations ++ rest)) :
    ∃ removed added, Replaces sides old new removed added pending.flush ∧
      Walk sides (old + removed) (new + added) rest := by
  rcases tagged.flush_eq walk with ⟨nothing, walk⟩ |
    ⟨removed, added, oldStart, newStart, one, oldHere, newHere, oldInside, newInside, _, walk⟩
  · exact ⟨0, 0, nothing ▸ .nothing, walk⟩
  · exact ⟨removed, added, one ▸ .one oldHere newHere oldInside newInside, walk⟩

end Pending

theorem changesFrom_describes {sides : Sides} {pending : Pending} (tagged : pending.Tagged)
    {operations : List Operation} {old new : Nat}
    (walk : Walk sides old new (pending.operations ++ operations)) :
    Describes sides old new (changesFrom pending operations) := by
  -- The pending operations stand in front of those to come: together they lead to the ends.
  induction operations generalizing pending old new with
  | nil =>
    obtain ⟨removed, added, replaces, walk⟩ := tagged.flush walk
    cases walk with
    | done oldDone newDone =>
      rw [changesFrom, ← List.append_nil pending.flush]
      exact .replace replaces (.done oldDone newDone)
  | cons operation rest inductionHypothesis =>
    rw [changesFrom]
    split
    next isKeep =>
      obtain ⟨removed, added, replaces, walk⟩ := tagged.flush walk
      cases walk with
      | remove => cases isKeep
      | add => cases isKeep
      | keep same walk =>
        exact .replace replaces (.keep same (inductionHypothesis Pending.tagged_empty walk))
    next isMoving =>
      have moving : operation.tag ≠ .equal := by simpa [Operation.isKeep] using isMoving
      obtain ⟨stillTagged, leads⟩ := tagged.take moving
      exact inductionHypothesis stillTagged (leads old new walk).1

/-! ### Joining changes -/

namespace EndsWithin

variable {left right : LineRange} {limit : Nat}

theorem join (first : EndsWithin left limit) (second : EndsWithin right limit)
    (touch : left.stop = right.start) : EndsWithin ⟨left.start, right.stop⟩ limit :=
  ⟨Nat.le_trans first.1 (touch ▸ second.1), second.2⟩

/-- Two ranges that touch cover the same lines as the range from the first to the last of them. -/
theorem covered_join (first : EndsWithin left limit) (second : EndsWithin right limit)
    (touch : left.stop = right.start) {ranges joined : List LineRange} {line : Nat}
    (alike : Covered (right :: joined) line ↔ Covered ranges line) :
    Covered (⟨left.start, right.stop⟩ :: joined) line ↔ Covered (left :: ranges) line := by
  have leftOrdered := first.1
  have rightOrdered := second.1
  rw [covered_cons, covered_cons, ← alike, covered_cons, ← or_assoc]
  refine or_congr_left ?_
  dsimp only
  omega

end EndsWithin

/-- Joining changes that touch alters no line's being covered. -/
theorem joinTouching_spec {sides : Sides} {changes : List LineChange}
    (held : ∀ change ∈ changes, sides.Holds change) :
    (∀ change ∈ joinTouching changes, sides.Holds change) ∧
      ∀ line,
        (Covered ((joinTouching changes).map (·.old)) line ↔ Covered (changes.map (·.old)) line) ∧
        (Covered ((joinTouching changes).map (·.new)) line ↔ Covered (changes.map (·.new)) line) := by
  induction changes with
  | nil => exact ⟨held, fun _ => ⟨Iff.rfl, Iff.rfl⟩⟩
  | cons change rest inductionHypothesis =>
    obtain ⟨here, later⟩ := List.forall_mem_cons.mp held
    obtain ⟨heldLater, alike⟩ := inductionHypothesis later
    rw [joinTouching]
    split
    next joined =>
      rw [joined] at alike
      exact ⟨List.forall_mem_singleton.mpr here, fun line =>
        ⟨covered_cons_congr (alike line).1, covered_cons_congr (alike line).2⟩⟩
    next next others joined =>
      rw [joined] at heldLater alike
      obtain ⟨nextHeld, othersHeld⟩ := List.forall_mem_cons.mp heldLater
      split
      next touch =>
        refine ⟨List.forall_mem_cons.mpr ⟨?_, othersHeld⟩, fun line => ⟨?_, ?_⟩⟩
        · exact ⟨here.1.join nextHeld.1 touch.1, here.2.join nextHeld.2 touch.2⟩
        · exact here.1.covered_join nextHeld.1 touch.1 (alike line).1
        · exact here.2.covered_join nextHeld.2 touch.2 (alike line).2
      next =>
        exact ⟨List.forall_mem_cons.mpr ⟨here, heldLater⟩, fun line =>
          ⟨covered_cons_congr (alike line).1, covered_cons_congr (alike line).2⟩⟩

/-! ### Detection -/

theorem gathered_describes (deadline : Deadline) (old new : List String) :
    Describes ⟨old, new⟩ 0 0 (gathered deadline old new) :=
  changesFrom_describes Pending.tagged_empty (Sides.compact_leads ⟨old, new⟩
    (compare deadline old new) 0 0 (compare_walk deadline old new)).1

/-- Equal lists are kept as a whole, and nothing is gathered. -/
theorem gathered_self (deadline : Deadline) (items : List String) :
    gathered deadline items items = [] := by
  have kept : ∀ operation ∈ unlessEmpty (.keep 0 0 items.length), operation.tag = .equal := by
    intro operation member
    unfold unlessEmpty at member
    split at member
    · cases member
    · rw [List.mem_singleton.mp member]
      rfl
  rw [gathered, compare_self, Sides.compact_eq_self _ kept]
  unfold unlessEmpty
  split <;> rfl

/-- Texts are compared token by token, unless no comparison is offered. -/
theorem detect_eq_ok {deadline : Deadline} {old new : String} {changes : List LineChange}
    (detected : detect deadline old new = .ok changes) :
    changes = joinTouching (gathered deadline (tokens old) (tokens new)) := by
  unfold detect at detected
  split at detected
  next same =>
    cases detected
    rw [same, gathered_self]
    rfl
  next =>
    split at detected
    · cases detected
    · split at detected
      · cases detected
      · cases detected
        rfl

theorem detect_holds {deadline : Deadline} {old new : String} {changes : List LineChange}
    (detected : detect deadline old new = .ok changes) :
    ∀ change ∈ changes, Sides.Holds ⟨tokens old, tokens new⟩ change := by
  rw [detect_eq_ok detected]
  exact (joinTouching_spec (gathered_describes deadline _ _).held).1

theorem detect_pairsOff {deadline : Deadline} {old new : String} {changes : List LineChange}
    (detected : detect deadline old new = .ok changes) :
    PairsOff changes (tokens old) (tokens new) := by
  have describes := gathered_describes deadline (tokens old) (tokens new)
  obtain ⟨held, alike⟩ := joinTouching_spec describes.held
  rw [detect_eq_ok detected]
  refine ⟨fun change member => (held change member).1.2,
    fun change member => (held change member).2.2, ?_⟩
  rw [outside_congr _ fun line _ => (alike line).1, outside_congr _ fun line _ => (alike line).2]
  exact describes.same

/-- Changed ranges pair off the tokens of both texts. If one of the texts has no carriage return
inside of a line, they are ranges of lines and pair off the lines of both texts if and only if the
other one has none, either. -/
theorem detect_pairsOff_lines_iff {deadline : Deadline} {old new : String}
    {changes : List LineChange} (detected : detect deadline old new = .ok changes) :
    PairsOff changes (tokens old) (tokens new) ∧
      (Text.Unbroken old ∨ Text.Unbroken new →
        (PairsOff changes (LineIndex.ofText old).rows (LineIndex.ofText new).rows ↔
          Text.Unbroken old ∧ Text.Unbroken new)) := by
  have paired := detect_pairsOff detected
  refine ⟨paired, fun either => ⟨fun lines => ?_, fun ⟨oldUnbroken, newUnbroken⟩ => ?_⟩⟩
  · -- On one side tokens are lines, so a broken text on the other would pair off with its tokens as
    -- well as with its lines, which are fewer.
    rcases either with oldUnbroken | newUnbroken
    · refine ⟨oldUnbroken, Decidable.byContradiction fun newBroken => ?_⟩
      rw [tokens_eq_rows oldUnbroken] at paired
      exact lines.length_new paired (size_lt_tokens newBroken)
    · refine ⟨Decidable.byContradiction fun oldBroken => ?_, newUnbroken⟩
      rw [tokens_eq_rows newUnbroken] at paired
      exact lines.length_old paired (size_lt_tokens oldBroken)
  · rw [← tokens_eq_rows oldUnbroken, ← tokens_eq_rows newUnbroken]
    exact paired

/-- Where only the new text has a carriage return inside of a line, a range runs past its lines. -/
theorem detect_pairsOff_lines_iff_loneReturn :
    detect .ample "a\n" "a\rb\n" = .ok [⟨⟨0, 1⟩, ⟨0, 2⟩⟩] ∧
      (LineIndex.ofText "a\rb\n").size = 1 ∧
      ¬ PairsOff [⟨⟨0, 1⟩, ⟨0, 2⟩⟩] (LineIndex.ofText "a\n").rows (LineIndex.ofText "a\rb\n").rows := by
  have detected : detect .ample "a\n" "a\rb\n" = .ok [⟨⟨0, 1⟩, ⟨0, 2⟩⟩] := rfl
  have broken : ¬ Text.Unbroken "a\rb\n" := by decide
  refine ⟨detected, by decide, fun lines => broken ?_⟩
  exact (((detect_pairsOff_lines_iff detected).2 (Or.inl (by decide))).mp lines).2

end Diff

end Chunking
