/-
Edit scripts: lists of changes that lead from the rows of one text to the rows of
another. A script says which rows are kept; everything else about it follows
from where they are. Two facts are used throughout. A stretch of old rows that
no change touches moves as a whole, and the line it moves to is the one that
`Changes.shift` computes. A stretch of new rows that keeps its distance from all
changes comes as a whole from a stretch of old rows, and the line it comes from
is the one that `Changes.origin?` computes.
-/

import Chunking.LineIndex
import Chunking.Scope.Cuts
import Mathlib.Data.List.Basic

namespace Chunking

/-- The changes lead from the rows `old`, which begin at line `oldAt` of their text, to the rows
`new`, which begin at line `newAt` of theirs. Before each change some rows are kept, then some are
removed and others put in their place. -/
inductive EditScript : (oldAt newAt : Nat) → List LineChange → (old new : List String) → Prop where
  | done (oldAt newAt : Nat) (rows : List String) : EditScript oldAt newAt [] rows rows
  | change {oldAt newAt : Nat} (kept removed added : List String) {changes : List LineChange}
      {old new : List String}
      (rest : EditScript (oldAt + kept.length + removed.length) (newAt + kept.length + added.length)
        changes old new) :
      EditScript oldAt newAt
        (⟨⟨oldAt + kept.length, oldAt + kept.length + removed.length⟩,
          ⟨newAt + kept.length, newAt + kept.length + added.length⟩⟩ :: changes)
        (kept ++ removed ++ old) (kept ++ added ++ new)

/-- The changes lead from the lines of one text to the lines of another. -/
def IsEditScript (changes : List LineChange) (old new : String) : Prop :=
  EditScript 0 0 changes (LineIndex.ofText old).rows (LineIndex.ofText new).rows

namespace EditScript

variable {oldAt newAt : Nat} {changes : List LineChange} {old new : List String}

/-! ### Bounds -/

theorem old_bounds (script : EditScript oldAt newAt changes old new) {change : LineChange}
    (member : change ∈ changes) :
    oldAt ≤ change.old.start ∧ change.old.start ≤ change.old.stop ∧
      change.old.stop ≤ oldAt + old.length := by
  induction script with
  | done => simp at member
  | change kept removed added rest inductionHypothesis =>
    simp only [List.length_append]
    rcases List.mem_cons.mp member with rfl | later
    · dsimp only
      omega
    · have := inductionHypothesis later
      omega

theorem new_bounds (script : EditScript oldAt newAt changes old new) {change : LineChange}
    (member : change ∈ changes) :
    newAt ≤ change.new.start ∧ change.new.start ≤ change.new.stop ∧
      change.new.stop ≤ newAt + new.length := by
  induction script with
  | done => simp at member
  | change kept removed added rest inductionHypothesis =>
    simp only [List.length_append]
    rcases List.mem_cons.mp member with rfl | later
    · dsimp only
      omega
    · have := inductionHypothesis later
      omega

end EditScript

/-! ### Kept lines -/

/-- Line `line` of the old text is kept and becomes line `place` of the new one. The rows are
those from `oldAt` and from `newAt` on. -/
structure KeptLine (oldAt newAt : Nat) (changes : List LineChange) (old new : List String)
    (line place : Nat) : Prop where
  oldStart : oldAt ≤ line
  oldStop : line < oldAt + old.length
  newStart : newAt ≤ place
  newStop : place < newAt + new.length
  row : new[place - newAt]? = old[line - oldAt]?
  /-- Each change is either before the line in both texts or behind it in both. -/
  side : ∀ change ∈ changes, (change.old.stop ≤ line ∧ change.new.stop ≤ place) ∨
    (line < change.old.start ∧ place < change.new.start)
  moved : (line : Int) + (newAt - oldAt) + Changes.deltaAt changes line = place
  origin : Changes.originFrom place oldAt newAt changes = some line

theorem LineChange.delta_of_lt {change : LineChange} (oldSmall : change.old.size < Word.signedLimit)
    (newSmall : change.new.size < Word.signedLimit) :
    change.delta = (change.new.size : Int) - change.old.size := by
  rw [delta, Word.signed_of_lt oldSmall, Word.signed_of_lt newSmall]

/-- A change that does not touch a stretch of lines is on one side of it; an insertion at either
end of the stretch is so, too. -/
theorem LineChange.touches_eq_false {change : LineChange} {range : LineRange}
    (ordered : change.old.start ≤ change.old.stop) :
    change.touches range = false ↔
      change.old.stop ≤ range.start ∨ range.stop ≤ change.old.start := by
  unfold touches isInsertion LineRange.isEmpty LineRange.overlaps
  by_cases insertion : change.old.stop ≤ change.old.start
  · rw [if_pos (decide_eq_true insertion)]
    simp only [Bool.and_eq_false_iff, decide_eq_false_iff_not]
    omega
  · rw [if_neg (by simpa using insertion)]
    simp only [Bool.and_eq_false_iff, decide_eq_false_iff_not]
    omega

namespace Changes

theorem deltaAt_cons_of_le {change : LineChange} {rest : List LineChange} {line : Nat}
    (before : change.old.stop ≤ line) :
    deltaAt (change :: rest) line = change.delta + deltaAt rest line := by
  rw [deltaAt, List.takeWhile_cons_of_pos (by simpa using before), List.map_cons, List.foldr_cons,
    deltaAt]

theorem deltaAt_cons_of_lt {change : LineChange} {rest : List LineChange} {line : Nat}
    (behind : line < change.old.stop) : deltaAt (change :: rest) line = 0 := by
  rw [deltaAt, List.takeWhile_cons_of_neg (by simpa using behind), List.map_nil, List.foldr_nil]

/-- The movement of a line depends only on which changes are before it. -/
theorem deltaAt_congr {changes : List LineChange} {line other : Nat}
    (same : ∀ change ∈ changes, change.old.stop ≤ line ↔ change.old.stop ≤ other) :
    deltaAt changes line = deltaAt changes other := by
  induction changes with
  | nil => rfl
  | cons change rest inductionHypothesis =>
    have first := same change List.mem_cons_self
    by_cases before : change.old.stop ≤ line
    · rw [deltaAt_cons_of_le before, deltaAt_cons_of_le (first.mp before),
        inductionHypothesis fun later member => same later (List.mem_cons_of_mem _ member)]
    · rw [deltaAt_cons_of_lt (by omega), deltaAt_cons_of_lt (by omega)]

/-- A line in front of all changes has not been made by any of them. -/
theorem originFrom_of_lt {changes : List LineChange} {place oldAt newAt : Nat}
    (before : place < newAt) (ahead : ∀ change ∈ changes, place < change.new.start)
    (ordered : ∀ change ∈ changes, change.new.start ≤ change.new.stop) :
    originFrom place oldAt newAt changes = none := by
  induction changes generalizing oldAt newAt with
  | nil => rw [originFrom, if_neg (Nat.not_le_of_lt before)]
  | cons change rest inductionHypothesis =>
    have first : place < change.new.stop :=
      Nat.lt_of_lt_of_le (ahead change List.mem_cons_self) (ordered change List.mem_cons_self)
    rw [originFrom, inductionHypothesis first
        (fun later member => ahead later (List.mem_cons_of_mem _ member))
        (fun later member => ordered later (List.mem_cons_of_mem _ member)),
      Option.none_or, if_neg (fun inside => Nat.not_le_of_lt before inside.1)]

end Changes

namespace KeptLine

variable {oldAt newAt : Nat} {changes : List LineChange} {old new : List String}

/-- Without any changes every line is kept. -/
theorem done (rows : List String) {count : Nat} (inside : count < rows.length) :
    KeptLine oldAt newAt [] rows rows (oldAt + count) (newAt + count) where
  oldStart := by omega
  oldStop := by omega
  newStart := by omega
  newStop := by omega
  row := by rw [Nat.add_sub_cancel_left, Nat.add_sub_cancel_left]
  side := by simp
  moved := by
    rw [Changes.deltaAt, List.takeWhile_nil, List.map_nil, List.foldr_nil]
    omega
  origin := by
    rw [Changes.originFrom, if_pos (Nat.le_add_right _ _)]
    congr 1
    omega

/-- A line in front of the first change is kept. -/
theorem here (kept removed added : List String)
    (rest : EditScript (oldAt + kept.length + removed.length) (newAt + kept.length + added.length)
      changes old new) {count : Nat} (inside : count < kept.length) :
    KeptLine oldAt newAt
      (⟨⟨oldAt + kept.length, oldAt + kept.length + removed.length⟩,
        ⟨newAt + kept.length, newAt + kept.length + added.length⟩⟩ :: changes)
      (kept ++ removed ++ old) (kept ++ added ++ new) (oldAt + count) (newAt + count) where
  oldStart := by omega
  oldStop := by
    simp only [List.length_append]
    omega
  newStart := by omega
  newStop := by
    simp only [List.length_append]
    omega
  row := by
    rw [Nat.add_sub_cancel_left, Nat.add_sub_cancel_left, List.append_assoc, List.append_assoc,
      List.getElem?_append_left inside, List.getElem?_append_left inside]
  side := by
    intro change member
    right
    rcases List.mem_cons.mp member with rfl | later
    · dsimp only
      omega
    · have := rest.old_bounds later
      have := rest.new_bounds later
      omega
  moved := by
    rw [Changes.deltaAt_cons_of_lt (by dsimp only; omega)]
    omega
  origin := by
    rw [Changes.originFrom, Changes.originFrom_of_lt (by dsimp only; omega)
        (fun later member => by have := rest.new_bounds member; omega)
        (fun later member => (rest.new_bounds member).2.1),
      Option.none_or, if_pos (by dsimp only; omega)]
    congr 1
    omega

/-- A line that is kept behind the first change is kept. -/
theorem later (kept removed added : List String) {line place : Nat}
    (oldSmall : removed.length < Word.signedLimit) (newSmall : added.length < Word.signedLimit)
    (tail : KeptLine (oldAt + kept.length + removed.length) (newAt + kept.length + added.length)
      changes old new line place) :
    KeptLine oldAt newAt
      (⟨⟨oldAt + kept.length, oldAt + kept.length + removed.length⟩,
        ⟨newAt + kept.length, newAt + kept.length + added.length⟩⟩ :: changes)
      (kept ++ removed ++ old) (kept ++ added ++ new) line place := by
  obtain ⟨oldStart, oldStop, newStart, newStop, row, side, moved, origin⟩ := tail
  refine ⟨by omega, ?_, by omega, ?_, ?_, ?_, ?_, ?_⟩
  · simp only [List.length_append]
    omega
  · simp only [List.length_append]
    omega
  · rw [List.getElem?_append_right (by rw [List.length_append]; omega),
      List.getElem?_append_right (by rw [List.length_append]; omega), List.length_append,
      List.length_append, show place - newAt - (kept.length + added.length) =
        place - (newAt + kept.length + added.length) by omega, row]
    congr 1
    omega
  · intro change member
    rcases List.mem_cons.mp member with rfl | later
    · exact Or.inl ⟨oldStart, newStart⟩
    · exact side change later
  · rw [Changes.deltaAt_cons_of_le oldStart, LineChange.delta_of_lt]
    · simp only [LineRange.size]
      omega
    · simp only [LineRange.size]
      omega
    · simp only [LineRange.size]
      omega
  · rw [Changes.originFrom]
    simp only
    rw [origin, Option.some_or]

theorem line_unique {line other place : Nat}
    (first : KeptLine oldAt newAt changes old new line place)
    (second : KeptLine oldAt newAt changes old new other place) : line = other :=
  Option.some.inj (first.origin.symm.trans second.origin)

/-- Two kept lines with the same changes before them stay as far apart as they were. -/
theorem distance {line other place otherPlace : Nat}
    (first : KeptLine oldAt newAt changes old new line place)
    (second : KeptLine oldAt newAt changes old new other otherPlace)
    (same : ∀ change ∈ changes, change.old.stop ≤ line ↔ change.old.stop ≤ other) :
    (otherPlace : Int) - place = other - line := by
  have delta := Changes.deltaAt_congr same
  have left := first.moved
  have right := second.moved
  omega

/-- Kept lines stay in their order. -/
theorem place_lt {line other place otherPlace : Nat}
    (script : EditScript oldAt newAt changes old new)
    (first : KeptLine oldAt newAt changes old new line place)
    (second : KeptLine oldAt newAt changes old new other otherPlace) (before : line < other) :
    place < otherPlace := by
  by_cases between : ∃ change ∈ changes, line < change.old.start ∧ change.old.stop ≤ other
  · obtain ⟨change, member, ahead, behind⟩ := between
    have oldBounds := script.old_bounds member
    have newBounds := script.new_bounds member
    have left := first.side change member
    have right := second.side change member
    omega
  · have distance := first.distance second fun change member => by
      have left := first.side change member
      have none : ¬ (line < change.old.start ∧ change.old.stop ≤ other) :=
        fun inside => between ⟨change, member, inside⟩
      omega
    omega

/-- A stretch of kept lines has the same rows in both texts. -/
theorem rows_eq {line place size : Nat}
    (kept : ∀ count < size, KeptLine 0 0 changes old new (line + count) (place + count)) :
    (new.drop place).take size = (old.drop line).take size := by
  by_cases nothing : size = 0
  · rw [nothing, List.take_zero, List.take_zero]
  have last := kept (size - 1) (by omega)
  have oldStop := last.oldStop
  have newStop := last.newStop
  refine List.ext_getElem? fun count => ?_
  by_cases bound : count < size
  · have row := (kept count bound).row
    rw [List.getElem?_take_of_lt bound, List.getElem?_take_of_lt bound, List.getElem?_drop,
      List.getElem?_drop]
    simpa using row
  · rw [List.getElem?_eq_none (by rw [List.length_take]; omega),
      List.getElem?_eq_none (by rw [List.length_take]; omega)]

end KeptLine

/-! ### Stretches of kept lines -/

namespace EditScript

/-- An old line that no change removes is kept. -/
theorem kept_of_old {oldAt newAt : Nat} {changes : List LineChange} {old new : List String}
    (script : EditScript oldAt newAt changes old new) (oldSmall : old.length < Word.signedLimit)
    (newSmall : new.length < Word.signedLimit) {line : Nat} (start : oldAt ≤ line)
    (stop : line < oldAt + old.length)
    (unchanged : ∀ change ∈ changes, line < change.old.start ∨ change.old.stop ≤ line) :
    ∃ place, KeptLine oldAt newAt changes old new line place := by
  induction script with
  | done oldAt newAt rows =>
    obtain ⟨count, rfl⟩ := Nat.exists_eq_add_of_le start
    exact ⟨newAt + count, .done rows (by omega)⟩
  | @change oldAt newAt kept removed added changes old new rest inductionHypothesis =>
    simp only [List.length_append] at oldSmall newSmall stop
    rcases unchanged _ List.mem_cons_self with before | behind
    · obtain ⟨count, rfl⟩ := Nat.exists_eq_add_of_le start
      exact ⟨newAt + count, .here kept removed added rest (by dsimp only at before; omega)⟩
    · obtain ⟨place, tail⟩ := inductionHypothesis (by omega) (by omega) behind (by omega)
        fun change member => unchanged change (List.mem_cons_of_mem _ member)
      exact ⟨place, .later kept removed added (by omega) (by omega) tail⟩

/-- A new line that no change adds is kept from the old text. -/
theorem kept_of_new {oldAt newAt : Nat} {changes : List LineChange} {old new : List String}
    (script : EditScript oldAt newAt changes old new) (oldSmall : old.length < Word.signedLimit)
    (newSmall : new.length < Word.signedLimit) {place : Nat} (start : newAt ≤ place)
    (stop : place < newAt + new.length)
    (unchanged : ∀ change ∈ changes, place < change.new.start ∨ change.new.stop ≤ place) :
    ∃ line, KeptLine oldAt newAt changes old new line place := by
  induction script with
  | done oldAt newAt rows =>
    obtain ⟨count, rfl⟩ := Nat.exists_eq_add_of_le start
    exact ⟨oldAt + count, .done rows (by omega)⟩
  | @change oldAt newAt kept removed added changes old new rest inductionHypothesis =>
    simp only [List.length_append] at oldSmall newSmall stop
    rcases unchanged _ List.mem_cons_self with before | behind
    · obtain ⟨count, rfl⟩ := Nat.exists_eq_add_of_le start
      exact ⟨oldAt + count, .here kept removed added rest (by dsimp only at before; omega)⟩
    · obtain ⟨line, tail⟩ := inductionHypothesis (by omega) (by omega) behind (by omega)
        fun change member => unchanged change (List.mem_cons_of_mem _ member)
      exact ⟨line, .later kept removed added (by omega) (by omega) tail⟩

variable {changes : List LineChange} {old new : List String}
  (script : EditScript 0 0 changes old new) (oldSmall : old.length < Word.signedLimit)
  (newSmall : new.length < Word.signedLimit)

include script oldSmall newSmall

/-- A stretch of old lines that no change touches moves as a whole. -/
theorem moves {range : LineRange} (nonempty : range.start < range.stop)
    (inside : range.stop ≤ old.length)
    (untouched : ∀ change ∈ changes, change.touches range = false) :
    ∃ place, ∀ count < range.stop - range.start,
      KeptLine 0 0 changes old new (range.start + count) (place + count) := by
  have side : ∀ change ∈ changes,
      change.old.stop ≤ range.start ∨ range.stop ≤ change.old.start := by
    intro change member
    exact (LineChange.touches_eq_false (script.old_bounds member).2.1).mp
      (untouched change member)
  have kept : ∀ count < range.stop - range.start,
      ∃ place, KeptLine 0 0 changes old new (range.start + count) place := by
    intro count bound
    refine script.kept_of_old oldSmall newSmall (Nat.zero_le _) (by omega) fun change member => ?_
    have bounds := script.old_bounds member
    rcases side change member with before | behind
    · exact Or.inr (by omega)
    · exact Or.inl (by omega)
  obtain ⟨place, first⟩ := kept 0 (by omega)
  refine ⟨place, fun count bound => ?_⟩
  obtain ⟨other, line⟩ := kept count bound
  have distance := first.distance line fun change member => by
    have bounds := script.old_bounds member
    rcases side change member with before | behind <;> omega
  have same : other = place + count := by omega
  exact same ▸ line

/-- A stretch of new lines with no change inside of it comes as a whole from old lines. -/
theorem comes {range : LineRange} (nonempty : range.start < range.stop)
    (inside : range.stop ≤ new.length)
    (apart : ∀ change ∈ changes, change.new.stop ≤ range.start ∨ range.stop ≤ change.new.start) :
    ∃ line, ∀ count < range.stop - range.start,
      KeptLine 0 0 changes old new (line + count) (range.start + count) := by
  have kept : ∀ count < range.stop - range.start,
      ∃ line, KeptLine 0 0 changes old new line (range.start + count) := by
    intro count bound
    refine script.kept_of_new oldSmall newSmall (Nat.zero_le _) (by omega) fun change member => ?_
    have bounds := script.new_bounds member
    rcases apart change member with before | behind
    · exact Or.inr (by omega)
    · exact Or.inl (by omega)
  obtain ⟨line, first⟩ := kept 0 (by omega)
  refine ⟨line, fun count bound => ?_⟩
  obtain ⟨other, place⟩ := kept count bound
  have distance := first.distance place fun change member => by
    have oldBounds := script.old_bounds member
    have newBounds := script.new_bounds member
    have left := first.side change member
    have right := place.side change member
    rcases apart change member with before | behind <;> omega
  have same : other = line + count := by omega
  exact same ▸ place

end EditScript

end Chunking
