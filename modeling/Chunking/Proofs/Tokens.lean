/-
Tokens of a comparison and rows of a line index. Both are cut behind line feeds,
and a carriage return in front of a line feed or at the very end makes no
difference. A carriage return inside of a line ends a token but not a row, and
since no later cut makes up for it, a text with one has more tokens than rows.
-/

import Chunking.Diff.Operation
import Chunking.Proofs.Rows

namespace Chunking

namespace Text

/-- Whether some carriage return is followed by a character other than a line feed. -/
def breaksInside : List Char → Bool
  | [] => false
  | char :: rest => (char == '\r' && rest.head?.any (· != '\n')) || breaksInside rest

/-- A text whose carriage returns all stand in front of a line feed or at the very end. -/
def Unbroken (text : String) : Prop :=
  breaksInside text.toList = false

instance (text : String) : Decidable (Unbroken text) :=
  inferInstanceAs (Decidable (_ = _))

/-! ### Cutting one character after another -/

/-- Puts a character in front of the first piece, or makes a piece of it. -/
def extend (char : Char) : List (List Char) → List (List Char)
  | [] => [[char]]
  | piece :: pieces => (char :: piece) :: pieces

theorem length_extend (char : Char) {pieces : List (List Char)} (some : pieces ≠ []) :
    (extend char pieces).length = pieces.length := by
  cases pieces with
  | nil => exact absurd rfl some
  | cons piece pieces => rfl

theorem cutLines_step (char : Char) (rest : List Char) :
    cutLines (char :: rest) =
      if char = '\n' then [char] :: cutLines rest else extend char (cutLines rest) := by
  rw [cutLines]
  cases cutLines rest <;> rfl

end Text

namespace Diff

open Text

/-- A line feed ends a token, and so does a carriage return that no line feed follows. -/
def EndsToken (char : Char) (rest : List Char) : Prop :=
  char = '\n' ∨ (char = '\r' ∧ rest.head? ≠ some '\n')

instance (char : Char) (rest : List Char) : Decidable (EndsToken char rest) :=
  inferInstanceAs (Decidable (_ ∨ _))

theorem cutTokens_step (char : Char) (rest : List Char) :
    cutTokens (char :: rest) =
      if EndsToken char rest then [char] :: cutTokens rest else extend char (cutTokens rest) := by
  by_cases pair : char = '\r' ∧ rest.head? = some '\n'
  · obtain ⟨rfl, feed⟩ := pair
    obtain ⟨behind, rfl⟩ := List.head?_eq_some_iff.mp feed
    have single : cutTokens ('\n' :: behind) = ['\n'] :: cutTokens behind := by
      rw [cutTokens]
      · exact if_pos (Or.inl rfl)
      · rintro _ ⟨⟩
    rw [if_neg (by simp [EndsToken]), single, cutTokens]
    rfl
  · have apart : EndsToken char rest ↔ char = '\n' ∨ char = '\r' :=
      or_congr_right (and_iff_left_of_imp fun isReturn feed => pair ⟨isReturn, feed⟩)
    rw [cutTokens]
    · simp only [apart]
      split
      · rfl
      · cases cutTokens rest <;> rfl
    · rintro behind rfl rfl
      exact pair ⟨rfl, rfl⟩

theorem endsToken_of_eq {char : Char} (feed : char = '\n') (rest : List Char) : EndsToken char rest :=
  Or.inl feed

theorem cutTokens_eq_nil {chars : List Char} : cutTokens chars = [] ↔ chars = [] := by
  cases chars with
  | nil => simp [cutTokens]
  | cons char rest =>
    rw [cutTokens_step]
    split
    · simp
    · cases cutTokens rest <;> simp [extend]

/-- A character other than a line feed that ends a token of an unbroken text ends the text. -/
theorem eq_nil_of_endsToken {char : Char} {rest : List Char} (ends : EndsToken char rest)
    (inside : char ≠ '\n') (unbroken : breaksInside (char :: rest) = false) : rest = [] := by
  obtain ⟨isReturn, noFeed⟩ := ends.resolve_left inside
  rw [breaksInside, Bool.or_eq_false_iff, isReturn, beq_self_eq_true, Bool.true_and] at unbroken
  cases rest with
  | nil => rfl
  | cons next others =>
    have feed : next = '\n' := by simpa using unbroken.1
    exact absurd (congrArg some feed) noFeed

/-- Every token has a character of its own. -/
theorem length_cutTokens_le (chars : List Char) : (cutTokens chars).length ≤ chars.length := by
  induction chars with
  | nil => exact Nat.le_refl _
  | cons char rest inductionHypothesis =>
    rw [cutTokens_step, List.length_cons]
    split
    · exact Nat.succ_le_succ inductionHypothesis
    · by_cases nothing : rest = []
      · simp [nothing, cutTokens, extend]
      · rw [length_extend char (mt cutTokens_eq_nil.mp nothing)]
        exact Nat.le_succ_of_le inductionHypothesis

theorem length_tokens_le (text : String) : (tokens text).length ≤ text.length := by
  rw [tokens, List.length_map, ← String.length_toList]
  exact length_cutTokens_le text.toList

/-- Without a carriage return inside of a line, tokens are lines. -/
theorem cutTokens_eq_cutLines {chars : List Char} (unbroken : breaksInside chars = false) :
    cutTokens chars = cutLines chars := by
  induction chars with
  | nil => rfl
  | cons char rest inductionHypothesis =>
    have later : breaksInside rest = false := (Bool.or_eq_false_iff.mp unbroken).2
    rw [cutTokens_step, cutLines_step, inductionHypothesis later]
    by_cases feed : char = '\n'
    · rw [if_pos (endsToken_of_eq feed rest), if_pos feed]
    · rw [if_neg feed]
      split
      next ends =>
        rw [eq_nil_of_endsToken ends feed unbroken]
        rfl
      next => rfl

/-- There are never fewer tokens than lines, and there are more if a line is broken inside. -/
theorem length_cutLines (chars : List Char) :
    (cutLines chars).length ≤ (cutTokens chars).length ∧
      (breaksInside chars = true → (cutLines chars).length < (cutTokens chars).length) := by
  induction chars with
  | nil => simp [cutLines, cutTokens, breaksInside]
  | cons char rest inductionHypothesis =>
    obtain ⟨atMost, fewer⟩ := inductionHypothesis
    rw [cutTokens_step, cutLines_step]
    by_cases feed : char = '\n'
    · rw [if_pos (endsToken_of_eq feed rest), if_pos feed, List.length_cons, List.length_cons]
      refine ⟨Nat.succ_le_succ atMost, fun broken => Nat.succ_lt_succ (fewer ?_)⟩
      simpa [breaksInside, feed] using broken
    · rw [if_neg feed]
      by_cases nothing : rest = []
      · subst nothing
        simp [cutLines, cutTokens, extend, breaksInside]
      · have lines : cutLines rest ≠ [] := mt cutLines_eq_nil.mp nothing
        have tokens : cutTokens rest ≠ [] := mt cutTokens_eq_nil.mp nothing
        rw [length_extend char lines]
        split
        next => exact ⟨Nat.le_succ_of_le atMost, fun _ => Nat.lt_succ_of_le atMost⟩
        next goesOn =>
          rw [length_extend char tokens]
          refine ⟨atMost, fun broken => fewer ?_⟩
          rw [breaksInside, Bool.or_eq_true] at broken
          refine broken.resolve_left fun here => goesOn (Or.inr ?_)
          simp only [Bool.and_eq_true, beq_iff_eq, Option.any_eq_true, bne_iff_ne] at here
          obtain ⟨isReturn, next, first, noFeed⟩ := here
          exact ⟨isReturn, fun feed => noFeed (Option.some.inj (first.symm.trans feed))⟩

/-! ### Tokens and rows -/

theorem tokens_eq_rows {text : String} (unbroken : Unbroken text) :
    tokens text = (LineIndex.ofText text).rows :=
  congrArg (List.map String.ofList) (cutTokens_eq_cutLines unbroken)

theorem size_le_tokens (text : String) : (LineIndex.ofText text).size ≤ (tokens text).length := by
  rw [tokens, LineIndex.size, LineIndex.ofText, rawLines, List.length_map, List.length_map]
  exact (length_cutLines text.toList).1

theorem size_lt_tokens {text : String} (broken : ¬ Unbroken text) :
    (LineIndex.ofText text).size < (tokens text).length := by
  have more := (length_cutLines text.toList).2 (eq_true_of_ne_false broken)
  rw [tokens, LineIndex.size, LineIndex.ofText, rawLines, List.length_map, List.length_map]
  exact more

end Diff

end Chunking
