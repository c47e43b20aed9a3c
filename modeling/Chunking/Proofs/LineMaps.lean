/-
Three ways to follow a line through an edit script: the shift of a line that is
kept, the best guess for any line, and the table of old lines. They describe the
same correspondence. The guess keeps the order of the lines and stays inside of
the new text, on kept lines it is the shift, and read backwards it is the table.
-/

import Chunking.Proofs.EditScript
import Chunking.Proofs.Searches

namespace Chunking

namespace Changes

/-- None of the changes removes the old line. -/
def Keep (changes : List LineChange) (line : Nat) : Prop :=
  ∀ change ∈ changes, line < change.old.start ∨ change.old.stop ≤ line

instance (changes : List LineChange) (line : Nat) : Decidable (Keep changes line) :=
  inferInstanceAs (Decidable (∀ change ∈ changes, _))

/-- A line that is kept moves along with the changes before it. -/
theorem mapLineFrom_of_keep {changes : List LineChange} {line : Nat} (keep : Keep changes line)
    (delta : Int) :
    mapLineFrom delta line changes = Word.moved line (delta + deltaAt changes line) := by
  induction changes generalizing delta with
  | nil =>
    rw [mapLineFrom, deltaAt, List.takeWhile_nil, List.map_nil, List.foldr_nil, Int.add_zero]
  | cons change rest inductionHypothesis =>
    obtain ⟨here, later⟩ := List.forall_mem_cons.mp keep
    rw [mapLineFrom]
    by_cases before : change.old.stop ≤ line
    · rw [if_pos before, inductionHypothesis later, deltaAt_cons_of_le before, Int.add_assoc]
    · have ahead := here.resolve_right before
      rw [if_neg before, if_neg (Nat.not_le_of_lt ahead),
        deltaAt_cons_of_lt (Nat.lt_of_not_le before), Int.add_zero]

end Changes

/-! ### Kept lines -/

namespace KeptLine

variable {changes : List LineChange} {old new : List String} {line place : Nat}

theorem keep {oldAt newAt : Nat} (kept : KeptLine oldAt newAt changes old new line place) :
    Changes.Keep changes line :=
  fun change member => (kept.side change member).symm.imp And.left And.left

variable (kept : KeptLine 0 0 changes old new line place)
  (oldSmall : old.length < Word.signedLimit) (newSmall : new.length < Word.signedLimit)

include kept oldSmall newSmall

theorem mapLine_eq : Changes.mapLine changes line = place := by
  have moved := kept.moved
  have oldStop := kept.oldStop
  have newStop := kept.newStop
  rw [Changes.mapLine, Changes.mapLineFrom_of_keep kept.keep, Int.zero_add]
  exact Word.moved_of_lt (by omega) (by omega) (by omega)

theorem shift_eq : Changes.shift changes (line + 1) = place + 1 := by
  have moved := kept.moved
  have oldStop := kept.oldStop
  have newStop := kept.newStop
  rw [Changes.shift, Nat.add_sub_cancel]
  exact Word.moved_of_lt (by omega) (by omega) (by omega)

end KeptLine

namespace EditScript

/-- The old line that is computed for a new one is kept and becomes that line. -/
theorem kept_of_origin {oldAt newAt : Nat} {changes : List LineChange} {old new : List String}
    (script : EditScript oldAt newAt changes old new) (oldSmall : old.length < Word.signedLimit)
    (newSmall : new.length < Word.signedLimit) {line place : Nat}
    (stop : place < newAt + new.length)
    (origin : Changes.originFrom place oldAt newAt changes = some line) :
    KeptLine oldAt newAt changes old new line place := by
  induction script with
  | done oldAt newAt rows =>
    rw [Changes.originFrom] at origin
    split at origin
    next start =>
      obtain ⟨count, rfl⟩ := Nat.exists_eq_add_of_le start
      rw [Nat.add_sub_cancel_left] at origin
      exact Option.some.inj origin ▸ .done rows (by omega)
    next => cases origin
  | @change oldAt newAt kept removed added changes old new rest inductionHypothesis =>
    simp only [List.length_append] at oldSmall newSmall stop
    rw [Changes.originFrom] at origin
    rcases Option.or_eq_some_iff.mp origin with later | ⟨_, here⟩
    · exact .later kept removed added (by omega) (by omega)
        (inductionHypothesis (by omega) (by omega) (by omega) later)
    · split at here
      next inside =>
        obtain ⟨count, rfl⟩ := Nat.exists_eq_add_of_le inside.1
        rw [Nat.add_sub_cancel_left] at here
        exact Option.some.inj here ▸ .here kept removed added rest (by dsimp only at inside; omega)
      next => cases here

/-! ### All lines -/

section guess

variable {oldAt newAt line : Nat}

/-- Without any changes a line keeps its distance from the beginning. -/
theorem mapLineFrom_nil (start : oldAt ≤ line) (small : line < Word.signedLimit)
    (bounded : newAt + (line - oldAt) < Word.signedLimit) :
    Changes.mapLineFrom (newAt - oldAt) line [] = newAt + (line - oldAt) :=
  Word.moved_of_lt small (by omega) bounded

variable {changes : List LineChange} {kept removed added : Nat}

/-- A line up to the end of the first change keeps its distance, too, as long as what replaced the
change is long enough. -/
theorem mapLineFrom_within (start : oldAt ≤ line) (within : line < oldAt + kept + removed)
    (small : line < Word.signedLimit) (bounded : newAt + kept < Word.signedLimit) :
    Changes.mapLineFrom (newAt - oldAt) line
        (⟨⟨oldAt + kept, oldAt + kept + removed⟩, ⟨newAt + kept, newAt + kept + added⟩⟩ :: changes) =
      min (newAt + (line - oldAt)) (max (newAt + kept + added - 1) (newAt + kept)) := by
  rw [Changes.mapLineFrom, if_neg (Nat.not_le_of_lt within)]
  dsimp only
  split
  next inside => omega
  next before =>
    rw [Word.moved_of_lt small (show _ = ((newAt + (line - oldAt) : Nat) : Int) by omega) (by omega)]
    omega

/-- A line behind the first change is followed from there on. -/
theorem mapLineFrom_behind (removedSmall : removed < Word.signedLimit)
    (addedSmall : added < Word.signedLimit) (behind : oldAt + kept + removed ≤ line) :
    Changes.mapLineFrom (newAt - oldAt) line
        (⟨⟨oldAt + kept, oldAt + kept + removed⟩, ⟨newAt + kept, newAt + kept + added⟩⟩ :: changes) =
      Changes.mapLineFrom (↑(newAt + kept + added) - ↑(oldAt + kept + removed)) line changes := by
  have delta : LineChange.delta
      ⟨⟨oldAt + kept, oldAt + kept + removed⟩, ⟨newAt + kept, newAt + kept + added⟩⟩ =
        (added : Int) - removed := by
    rw [LineChange.delta_of_lt] <;> simp only [LineRange.size] <;> omega
  rw [Changes.mapLineFrom, if_pos behind, delta]
  congr 1
  omega

end guess

section script

variable {oldAt newAt : Nat} {changes : List LineChange} {old new : List String}
  (script : EditScript oldAt newAt changes old new)
  (oldSmall : oldAt + old.length < Word.signedLimit)
  (newSmall : newAt + new.length < Word.signedLimit)

include script oldSmall newSmall

/-- The guess for an old line, or for the end of the old text, is a new line or the end of the new
text. -/
theorem mapLineFrom_bounds {line : Nat} (start : oldAt ≤ line) (stop : line ≤ oldAt + old.length) :
    newAt ≤ Changes.mapLineFrom (newAt - oldAt) line changes ∧
      Changes.mapLineFrom (newAt - oldAt) line changes ≤ newAt + new.length := by
  induction script with
  | done oldAt newAt rows =>
    rw [mapLineFrom_nil start (by omega) (by omega)]
    omega
  | @change oldAt newAt kept removed added changes old new rest inductionHypothesis =>
    simp only [List.length_append] at oldSmall newSmall stop ⊢
    rcases Nat.lt_or_ge line (oldAt + kept.length + removed.length) with within | behind
    · rw [mapLineFrom_within start within (by omega) (by omega)]
      omega
    · rw [mapLineFrom_behind (by omega) (by omega) behind]
      have later := inductionHypothesis (by omega) (by omega) behind (by omega)
      omega

/-- The guesses for two lines are in the order of the lines. -/
theorem mapLineFrom_mono {first second : Nat} (start : oldAt ≤ first) (ordered : first ≤ second)
    (stop : second ≤ oldAt + old.length) :
    Changes.mapLineFrom (newAt - oldAt) first changes ≤
      Changes.mapLineFrom (newAt - oldAt) second changes := by
  induction script with
  | done oldAt newAt rows =>
    rw [mapLineFrom_nil start (by omega) (by omega),
      mapLineFrom_nil (Nat.le_trans start ordered) (by omega) (by omega)]
    omega
  | @change oldAt newAt kept removed added changes old new rest inductionHypothesis =>
    simp only [List.length_append] at oldSmall newSmall stop
    rcases Nat.lt_or_ge second (oldAt + kept.length + removed.length) with within | behind
    · rw [mapLineFrom_within start (by omega) (by omega) (by omega),
        mapLineFrom_within (Nat.le_trans start ordered) within (by omega) (by omega)]
      omega
    · rw [mapLineFrom_behind (by omega) (by omega) behind]
      rcases Nat.lt_or_ge first (oldAt + kept.length + removed.length) with within | firstBehind
      · -- The first line does not get past the change, and the second does not stay before it.
        have bounds := rest.mapLineFrom_bounds (by omega) (by omega) behind (by omega)
        rw [mapLineFrom_within start within (by omega) (by omega)]
        omega
      · rw [mapLineFrom_behind (by omega) (by omega) firstBehind]
        exact inductionHypothesis (by omega) (by omega) firstBehind (by omega)

end script

end EditScript

/-! ### The whole correspondence -/

/-- Shift, guess and table of old lines agree. -/
structure Changes.LinesAgree (changes : List LineChange) (old new : List String) : Prop where
  ordered : ∀ first second, first ≤ second → second < old.length →
    mapLine changes first ≤ mapLine changes second
  bounded : ∀ line < old.length, mapLine changes line ≤ new.length
  shifted : ∀ line < old.length, Keep changes line →
    shift changes (line + 1) = mapLine changes line + 1
  /-- A kept line has the same contents in both texts. -/
  same : ∀ line < old.length, Keep changes line →
    mapLine changes line < new.length ∧ new[mapLine changes line]? = old[line]?
  apart : ∀ line < old.length, ∀ other < old.length, Keep changes line → Keep changes other →
    mapLine changes line = mapLine changes other → line = other
  /-- A new line leads back to the kept line that is guessed to be there. -/
  origin : ∀ place < new.length, ∀ line, origin? changes place = some line ↔
    line < old.length ∧ Keep changes line ∧ mapLine changes line = place
  /-- The walk along the changes enters all of this in the table. -/
  traced : trace? new.length 0 0 changes (List.replicate new.length none) =
    some ((List.range new.length).map (origin? changes))

/-- Along every edit script the three computations describe the same correspondence. -/
theorem EditScript.linesAgree {changes : List LineChange} {old new : List String}
    (script : EditScript 0 0 changes old new) (oldSmall : old.length < Word.signedLimit)
    (newSmall : new.length < Word.signedLimit) : Changes.LinesAgree changes old new := by
  have keptLine : ∀ line < old.length, Changes.Keep changes line →
      KeptLine 0 0 changes old new line (Changes.mapLine changes line) := by
    intro line inside keep
    obtain ⟨place, kept⟩ := script.kept_of_old oldSmall newSmall (Nat.zero_le _) (by omega) keep
    rwa [kept.mapLine_eq oldSmall newSmall]
  have guess (line : Nat) : Changes.mapLine changes line =
      Changes.mapLineFrom ((0 : Nat) - (0 : Nat)) line changes := rfl
  refine ⟨?_, ?_, ?_, ?_, ?_, ?_, ?_⟩
  · intro first second ordered inside
    rw [guess, guess]
    exact script.mapLineFrom_mono (by omega) (by omega) (Nat.zero_le _) ordered (by omega)
  · intro line inside
    rw [guess, ← Nat.zero_add new.length]
    exact (script.mapLineFrom_bounds (by omega) (by omega) (Nat.zero_le _) (by omega)).2
  · intro line inside keep
    exact (keptLine line inside keep).shift_eq oldSmall newSmall
  · intro line inside keep
    have kept := keptLine line inside keep
    exact ⟨by simpa using kept.newStop, by simpa using kept.row⟩
  · intro line inside other otherInside keep otherKeep same
    have first := keptLine line inside keep
    rw [same] at first
    exact first.line_unique (keptLine other otherInside otherKeep)
  · intro place inside line
    constructor
    · intro origin
      have kept := script.kept_of_origin oldSmall newSmall (by omega) origin
      exact ⟨by simpa using kept.oldStop, kept.keep, kept.mapLine_eq oldSmall newSmall⟩
    · rintro ⟨oldInside, keep, rfl⟩
      exact (keptLine line oldInside keep).origin
  · exact Changes.trace?_replicate new.length changes

/-- Two lines put in front, two lines replaced by one, and the last line removed. -/
theorem EditScript.linesAgree_mixed :
    Changes.LinesAgree [⟨⟨0, 0⟩, ⟨0, 2⟩⟩, ⟨⟨1, 3⟩, ⟨3, 4⟩⟩, ⟨⟨4, 5⟩, ⟨5, 5⟩⟩]
        ["a", "b", "c", "d", "e"] ["p", "q", "a", "x", "d"] ∧
      (List.range 5).map (Changes.mapLine [⟨⟨0, 0⟩, ⟨0, 2⟩⟩, ⟨⟨1, 3⟩, ⟨3, 4⟩⟩, ⟨⟨4, 5⟩, ⟨5, 5⟩⟩]) =
        [2, 3, 3, 4, 5] := by
  have script : EditScript 0 0 [⟨⟨0, 0⟩, ⟨0, 2⟩⟩, ⟨⟨1, 3⟩, ⟨3, 4⟩⟩, ⟨⟨4, 5⟩, ⟨5, 5⟩⟩]
      ["a", "b", "c", "d", "e"] ["p", "q", "a", "x", "d"] :=
    .change [] [] ["p", "q"] (.change ["a"] ["b", "c"] ["x"] (.change ["d"] ["e"] [] (.done 5 5 [])))
  exact ⟨script.linesAgree (by decide) (by decide), by decide⟩

end Chunking
