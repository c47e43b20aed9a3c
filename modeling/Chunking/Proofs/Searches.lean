/-
How windows are found, step by step. The old lines of the new lines are entered in
a table first, one write after another. From then on every question whether a
window may start or end somewhere is answered by a look into the table. A search
asks one line after another, and the windows grow round by round until nothing is
swallowed. All of this is described by relations that a step takes part in only if
each place that it looks at is in the table, so what they relate has been reached
in finitely many steps without a look beyond the text.
-/

import Chunking.Proofs.Windows
import Mathlib.Data.List.Forall2

namespace Chunking

/-! ### The table of old lines -/

namespace Changes

/-- Enters consecutive old lines from `old` on for `count` new lines from `new` on; there is no
result if one of them has no place in the table. -/
def fill? : (count old new : Nat) → List (Option Nat) → Option (List (Option Nat))
  | 0, _, _, table => some table
  | count + 1, old, new, table =>
    if new < table.length then fill? count (old + 1) (new + 1) (table.set new (some old)) else none

/-- Enters the old lines of the lines between changes, when `old` and `new` are the places behind
the changes before. -/
def trace? (size : Nat) : (old new : Nat) → List LineChange → List (Option Nat) →
    Option (List (Option Nat))
  | old, new, [], table => fill? (size - new) old new table
  | old, new, change :: rest, table =>
    (fill? (min change.new.start size - new) old new table).bind
      (trace? size change.old.stop change.new.stop rest)

/-- Lines that have a place in the table are entered. -/
theorem fill?_eq_some (count old new : Nat) (table : List (Option Nat))
    (inside : 0 < count → new + count ≤ table.length) :
    ∃ filled, fill? count old new table = some filled ∧ filled.length = table.length ∧
      ∀ line : Nat, filled[line]? =
        if new ≤ line ∧ line < new + count then some (some (old + (line - new))) else table[line]? := by
  induction count generalizing old new table with
  | zero => exact ⟨table, rfl, rfl, fun line => (if_neg (by omega)).symm⟩
  | succ count inductionHypothesis =>
    have stops := inside (Nat.succ_pos count)
    have first : new < table.length := by omega
    obtain ⟨filled, entered, length, lines⟩ := inductionHypothesis (old + 1) (new + 1)
      (table.set new (some old)) (fun _ => by rw [List.length_set]; omega)
    rw [List.length_set] at length
    refine ⟨filled, by rw [fill?, if_pos first, entered], length, fun line => ?_⟩
    rw [lines, List.getElem?_set]
    by_cases same : new = line
    · rw [← same, if_neg (by omega), if_pos rfl, if_pos first, if_pos (by omega), Nat.sub_self,
        Nat.add_zero]
    · rw [if_neg same]
      by_cases later : new + 1 ≤ line ∧ line < new + 1 + count
      · rw [if_pos later, if_pos (by omega), show old + 1 + (line - (new + 1)) = old + (line - new) by
          omega]
      · rw [if_neg later, if_neg (by omega)]

/-- Whatever the changes are, the table comes to hold the line that each new line was before. -/
theorem trace?_eq_some (size old new : Nat) (changes : List LineChange) (table : List (Option Nat))
    (length : table.length = size) :
    ∃ traced, trace? size old new changes table = some traced ∧ traced.length = size ∧
      ∀ line : Nat, traced[line]? = table[line]?.map (originFrom line old new changes).or := by
  induction changes generalizing old new table with
  | nil =>
    obtain ⟨filled, entered, same, lines⟩ := fill?_eq_some (size - new) old new table (by omega)
    refine ⟨filled, entered, same.trans length, fun line => ?_⟩
    rw [lines, originFrom]
    by_cases inside : line < size
    · have here : table[line]? = some table[line] := List.getElem?_eq_getElem (by omega)
      rw [here, Option.map_some]
      by_cases behind : new ≤ line
      · rw [if_pos (by omega), if_pos behind, Option.some_or]
      · rw [if_neg (by omega), if_neg behind, Option.none_or]
    · have beyond : table[line]? = none := List.getElem?_eq_none (by omega)
      rw [beyond, if_neg (by omega), Option.map_none]
  | cons change rest inductionHypothesis =>
    obtain ⟨filled, entered, same, lines⟩ :=
      fill?_eq_some (min change.new.start size - new) old new table (by omega)
    obtain ⟨traced, found, size, later⟩ :=
      inductionHypothesis change.old.stop change.new.stop filled (same.trans length)
    refine ⟨traced, by rw [trace?, entered, Option.bind_some, found], size, fun line => ?_⟩
    rw [later, lines, originFrom]
    by_cases inside : line < table.length
    · have here : table[line]? = some table[line] := List.getElem?_eq_getElem inside
      rw [here, Option.map_some]
      by_cases between : new ≤ line ∧ line < change.new.start
      · rw [if_pos (by omega), if_pos between, Option.map_some, Option.or_assoc, Option.some_or]
      · rw [if_neg (by omega), if_neg between, Option.map_some, Option.or_none]
    · have beyond : table[line]? = none := List.getElem?_eq_none (by omega)
      rw [beyond, if_neg (by omega), Option.map_none, Option.map_none]

/-- Begun with an empty table, it holds the old lines of all new lines in the end. -/
theorem trace?_replicate (size : Nat) (changes : List LineChange) :
    trace? size 0 0 changes (List.replicate size none) =
      some ((List.range size).map (origin? changes)) := by
  obtain ⟨table, traced, _, lines⟩ :=
    trace?_eq_some size 0 0 changes (List.replicate size none) List.length_replicate
  rw [traced, Option.some_inj]
  refine List.ext_getElem? fun line => ?_
  rw [lines, List.getElem?_replicate, List.getElem?_map]
  by_cases inside : line < size
  · rw [if_pos inside, List.getElem?_range inside, Option.map_some, Option.map_some, Option.or_none]
    rfl
  · rw [if_neg inside, List.getElem?_eq_none (by simpa using inside), Option.map_none,
      Option.map_none]

end Changes

/-! ### Looking for cuts -/

namespace Cuts

/-- The table of the old lines of all new lines. -/
def table? (cuts : Cuts) : Option (List (Option Nat)) :=
  Changes.trace? cuts.size 0 0 cuts.changes (List.replicate cuts.size none)

theorem table?_eq_some (cuts : Cuts) : ∃ table, cuts.table? = some table ∧
    ∀ line < cuts.size, table[line]? = some (Changes.origin? cuts.changes line) := by
  refine ⟨_, Changes.trace?_replicate cuts.size cuts.changes, fun line inside => ?_⟩
  rw [List.getElem?_map, List.getElem?_range inside, Option.map_some]

variable (cuts : Cuts) (table : List (Option Nat))

/-- Whether a window may start at a line, by a look at the line before; there is no answer if that
line is not in the table. -/
def canStart? : (line : Nat) → Option Bool
  | 0 => some true
  | line + 1 => table[line]?.map fun origin =>
      origin.any (fun old => !cuts.straddles (old + 1)) && cuts.opensCleanly (line + 1)

/-- Whether a window may end before a line, by a look at that line. -/
def canEnd? (line : Nat) : Option Bool :=
  if cuts.size ≤ line then some true
  else table[line]?.map fun origin =>
    origin.any (fun old => !cuts.straddles old) && cuts.opensCleanly line

/-- From one line upwards, the first place where a window may start is another. -/
inductive SearchUp : (line start : Nat) → Prop where
  | here {line : Nat} (found : cuts.canStart? table line = some true) : SearchUp line line
  | up {line start : Nat} (missed : cuts.canStart? table (line + 1) = some false)
      (rest : SearchUp line start) : SearchUp (line + 1) start

/-- From one line downwards, the first place where a window may end is another. -/
inductive SearchDown : (line stop : Nat) → Prop where
  | here {line : Nat} (found : cuts.canEnd? table line = some true) : SearchDown line line
  | down {line stop : Nat} (missed : cuts.canEnd? table line = some false)
      (rest : SearchDown (line + 1) stop) : SearchDown line stop

/-- A window grows until both of its ends are at cuts. -/
structure Snaps (window snapped : LineRange) : Prop where
  start : cuts.SearchUp table (min window.start cuts.size) snapped.start
  stop : cuts.SearchDown table (min (max window.stop snapped.start) cuts.size) snapped.stop

variable {cuts table}
  (entries : ∀ line < cuts.size, table[line]? = some (Changes.origin? cuts.changes line))

include entries

theorem canStart?_eq {line : Nat} (inside : line ≤ cuts.size) :
    cuts.canStart? table line = some (cuts.canStart line) := by
  cases line with
  | zero => rfl
  | succ line =>
    rw [canStart?, entries line inside, Option.map_some, canStart, Nat.add_sub_cancel,
      beq_false_of_ne (Nat.succ_ne_zero line), Bool.false_or]

theorem canEnd?_eq (line : Nat) : cuts.canEnd? table line = some (cuts.canEnd line) := by
  rw [canEnd?, canEnd]
  by_cases behind : cuts.size ≤ line
  · rw [if_pos behind, decide_eq_true behind, Bool.true_or]
  · rw [if_neg behind, entries line (Nat.lt_of_not_le behind), Option.map_some,
      decide_eq_false behind, Bool.false_or]

theorem searchUp_startBefore {line : Nat} (inside : line ≤ cuts.size) :
    cuts.SearchUp table line (cuts.startBefore line) := by
  induction line with
  | zero => exact .here rfl
  | succ line inductionHypothesis =>
    have answer := canStart?_eq entries inside
    unfold startBefore
    split
    next found => exact .here (answer.trans (congrArg some found))
    next missed =>
      exact .up (answer.trans (congrArg some (Bool.eq_false_iff.mpr missed)))
        (inductionHypothesis (Nat.le_of_succ_le inside))

theorem searchDown_endAfter {steps line : Nat} (enough : cuts.size ≤ line + steps) :
    cuts.SearchDown table line (cuts.endAfter steps line) := by
  induction steps generalizing line with
  | zero => exact .here (if_pos enough)
  | succ steps inductionHypothesis =>
    have answer := canEnd?_eq entries line
    unfold endAfter
    split
    next found => exact .here (answer.trans (congrArg some found))
    next missed =>
      exact .down (answer.trans (congrArg some (Bool.eq_false_iff.mpr missed)))
        (inductionHypothesis (by omega))

theorem snaps_snap (window : LineRange) : cuts.Snaps table window (cuts.snap window) where
  start := searchUp_startBefore entries (Nat.min_le_right _ _)
  stop := searchDown_endAfter entries (Nat.le_of_eq (Nat.add_sub_cancel' (Nat.min_le_right _ _)).symm)

end Cuts

/-! ### Rounds -/

namespace Windows

/-- Windows and chunks come to a result, round by round; chunks in `swallowed` have been swallowed
before. -/
inductive Closes (cuts : Cuts) (table : List (Option Nat)) :
    List LineRange → (chunks swallowed : List Chunk) → Sweep → Prop where
  | done {windows snapped : List LineRange} {chunks swallowed : List Chunk}
      (snaps : List.Forall₂ (cuts.Snaps table) windows snapped)
      (nothing : (sweep (LineRange.coalesce snapped) chunks).swallowed = []) :
      Closes cuts table windows chunks swallowed ⟨LineRange.coalesce snapped, chunks, swallowed⟩
  | round {windows snapped : List LineRange} {chunks swallowed : List Chunk} {swept result : Sweep}
      (snaps : List.Forall₂ (cuts.Snaps table) windows snapped)
      (sweeps : sweep (LineRange.coalesce snapped) chunks = swept) (some : swept.swallowed ≠ [])
      (rest : Closes cuts table swept.windows swept.kept (swallowed ++ swept.swallowed) result) :
      Closes cuts table windows chunks swallowed result

variable {cuts : Cuts} {table : List (Option Nat)}
  (entries : ∀ line < cuts.size, table[line]? = some (Changes.origin? cuts.changes line))

include entries

theorem closes_close {rounds : Nat} (windows : List LineRange) {chunks : List Chunk}
    (swallowed : List Chunk) (enough : chunks.length ≤ rounds) :
    Closes cuts table windows chunks swallowed (close cuts rounds windows chunks swallowed) := by
  have snaps (windows : List LineRange) :
      List.Forall₂ (cuts.Snaps table) windows (windows.map cuts.snap) :=
    List.forall₂_map_right_iff.mpr (List.forall₂_same.mpr fun window _ => Cuts.snaps_snap entries window)
  induction rounds generalizing windows chunks swallowed with
  | zero =>
    rw [List.eq_nil_of_length_eq_zero (Nat.le_zero.mp enough)]
    exact .done (snaps windows) rfl
  | succ rounds inductionHypothesis =>
    unfold close
    simp only
    split
    next nothing => exact .done (snaps windows) (List.isEmpty_iff.mp nothing)
    next some =>
      obtain ⟨_, _, permutation, _⟩ :=
        sweep_spec (LineRange.coalesce (windows.map cuts.snap)) chunks
      have nonempty : (sweep (LineRange.coalesce (windows.map cuts.snap)) chunks).swallowed ≠ [] :=
        fun nil => some (List.isEmpty_iff.mpr nil)
      have fewer := permutation.length_eq
      have positive := List.length_pos_iff.mpr nonempty
      rw [List.length_append] at fewer
      exact .round (snaps windows) rfl nonempty (inductionHypothesis _ _ (by omega))

theorem closes_settle (windows : List LineRange) (chunks : List Chunk) :
    Closes cuts table windows chunks [] (settle cuts windows chunks) :=
  closes_close entries windows [] (Nat.le_refl _)

end Windows

end Chunking
