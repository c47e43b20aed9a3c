/-
Patterns for files in any directory. Two stars take the slash behind them along, so
that they can stand for no directory at all, and the rest of the pattern may then
begin anywhere, also in the middle of a name. It begins a segment only where what
stands in front of it in the same segment can be taken in by the rest itself: where
the rest has a star before anything that stands for itself. For every other rest
there is a path that is selected although no segment of it begins like that.
-/

import Chunking.Proofs.Patterns

namespace Chunking

namespace Pattern

open Text

/-- The rest of a pattern covers a path from the beginning of one of its segments on. -/
def FromSegment (rest path : String) : Prop :=
  wildcard rest path = true ∨
    ∃ directory tail, path = directory ++ "/" ++ tail ∧ wildcard rest tail = true

/-- Behind two stars and a slash, the rest of a pattern may start at any byte. -/
theorem selects_anywhere {rest path : String} : selects ("**/" ++ rest) path = true ↔
    ∃ before after, bytesOf path = before ++ after ∧ Cut (tokens (bytesOf rest)) after := by
  have chars : ("**/" ++ rest).toList = '*' :: '*' :: '/' :: rest.toList := by
    rw [String.toList_append]
    rfl
  have read : tokens (bytesOf ("**/" ++ rest)) = .anything :: tokens (bytesOf rest) := by
    rw [bytesOf_eq, chars, bytes_cons_of_ascii (by decide), bytes_cons_of_ascii (by decide),
      bytes_cons_of_ascii (by decide), ← bytesOf_eq]
    exact (Reads.anythingSlash (reads_tokens _)).eq_tokens
  have slashed : '/' ∈ ("**/" ++ rest).toList := by
    rw [chars]
    simp
  rw [selects_iff, read, cut_cons]
  simp only [slashed, not_true_eq_false, false_and, or_false]
  constructor
  · rintro ⟨before, after, -, cut, split⟩
    exact ⟨before, after, split, cut⟩
  · rintro ⟨before, after, split, cut⟩
    exact ⟨before, after, trivial, cut, split⟩

/-- How a pattern is read on from one of its characters. -/
theorem tokens_bytes_cons (char : Char) (rest : List Char) :
    (char = '?' ∧ tokens (bytes (char :: rest)) = .oneByte :: tokens (bytes rest)) ∨
    (char = '*' ∧ ∃ star later, (star = .anything ∨ star = .withinSegment) ∧ later <:+ rest ∧
      tokens (bytes (char :: rest)) = star :: tokens (bytes later)) ∨
    (char ≠ '?' ∧ char ≠ '*' ∧ tokens (bytes (char :: rest)) =
      (String.utf8EncodeChar char).map .literal ++ tokens (bytes rest)) := by
  by_cases mark : char = '?'
  · refine Or.inl ⟨mark, ?_⟩
    rw [mark, bytes_cons_of_ascii (by decide)]
    exact (Reads.oneByte (reads_tokens _)).eq_tokens
  · refine Or.inr ?_
    by_cases star : char = '*'
    · refine Or.inl ⟨star, ?_⟩
      rw [star, bytes_cons_of_ascii (by decide)]
      by_cases two : (bytes rest).head? = some '*'.toUInt8
      · obtain ⟨second, rfl⟩ := exists_cons_of_bytes (by decide) two
        rw [bytes_cons_of_ascii (by decide)]
        by_cases slashed : (bytes second).head? = some '/'.toUInt8
        · obtain ⟨third, rfl⟩ := exists_cons_of_bytes (by decide) slashed
          rw [bytes_cons_of_ascii (by decide)]
          exact ⟨.anything, third, Or.inl rfl,
            (List.suffix_cons _ _).trans (List.suffix_cons _ _),
            (Reads.anythingSlash (reads_tokens _)).eq_tokens⟩
        · exact ⟨.anything, second, Or.inl rfl, List.suffix_cons _ _,
            (Reads.anything slashed (reads_tokens _)).eq_tokens⟩
      · exact ⟨.withinSegment, rest, Or.inr rfl, List.suffix_refl _,
          (Reads.withinSegment two (reads_tokens _)).eq_tokens⟩
    · refine Or.inr ⟨mark, star, ?_⟩
      have noStar : '*'.toUInt8 ∉ String.utf8EncodeChar char :=
        not_mem_utf8EncodeChar (by decide) star
      have noMark : '?'.toUInt8 ∉ String.utf8EncodeChar char :=
        not_mem_utf8EncodeChar (by decide) mark
      rw [bytes_cons]
      generalize String.utf8EncodeChar char = encoded at noStar noMark
      induction encoded with
      | nil => rfl
      | cons byte others inductionHypothesis =>
        rw [List.mem_cons, not_or] at noStar noMark
        rw [List.map_cons, List.cons_append, List.cons_append,
          ← inductionHypothesis noStar.2 noMark.2]
        exact (Reads.literal (Ne.symm noStar.1) (Ne.symm noMark.1) (reads_tokens _)).eq_tokens

theorem tokens_replicate (marks : Nat) (rest : List Char) :
    tokens (bytes (List.replicate marks '?' ++ rest)) =
      List.replicate marks .oneByte ++ tokens (bytes rest) := by
  induction marks with
  | zero => rfl
  | succ marks inductionHypothesis =>
    rw [List.replicate_succ, List.replicate_succ, List.cons_append, List.cons_append,
      ← inductionHypothesis, bytes_cons_of_ascii (by decide)]
    exact (Reads.oneByte (reads_tokens _)).eq_tokens

/-! ### Where the beginning of a segment is found -/

/-- A byte in front of a text is taken in by question marks with a star behind them: every question
mark passes its own byte on. -/
theorem Cut.cons {marks : Nat} {star : Token} {more : List Token}
    (isStar : star = .anything ∨ star = .withinSegment) {byte : UInt8} {text : List UInt8}
    (inside : byte ≠ slash) (cut : Cut (List.replicate marks .oneByte ++ star :: more) text) :
    Cut (List.replicate marks .oneByte ++ star :: more) (byte :: text) := by
  induction marks generalizing byte text with
  | zero =>
    obtain ⟨piece, rest, takes, further, rfl⟩ := cut_cons.mp cut
    refine cut_cons.mpr ⟨byte :: piece, rest, ?_, further, rfl⟩
    rcases isStar with rfl | rfl
    · trivial
    · exact List.not_mem_cons_of_ne_of_not_mem inside.symm takes
  | succ marks inductionHypothesis =>
    obtain ⟨_, rest, ⟨other, noSlash, rfl⟩, further, rfl⟩ := cut_cons.mp cut
    exact cut_cons.mpr ⟨[byte], other :: rest, ⟨byte, inside, rfl⟩,
      inductionHypothesis noSlash further, rfl⟩

theorem Cut.append {marks : Nat} {star : Token} {more : List Token}
    (isStar : star = .anything ∨ star = .withinSegment) {front text : List UInt8}
    (inside : slash ∉ front) (cut : Cut (List.replicate marks .oneByte ++ star :: more) text) :
    Cut (List.replicate marks .oneByte ++ star :: more) (front ++ text) := by
  induction front with
  | nil => exact cut
  | cons byte others inductionHypothesis =>
    rw [List.mem_cons, not_or] at inside
    exact (inductionHypothesis inside.2).cons isStar (Ne.symm inside.1)

theorem fromSegment_of_star {rest path : String} {marks : Nat} {more : List Char}
    (starred : rest.toList = List.replicate marks '?' ++ '*' :: more)
    (selected : selects ("**/" ++ rest) path = true) : FromSegment rest path := by
  obtain ⟨before, after, split, cut⟩ := selects_anywhere.mp selected
  obtain ⟨star, later, isStar, read⟩ : ∃ star later, (star = .anything ∨ star = .withinSegment) ∧
      tokens (bytesOf rest) = List.replicate marks .oneByte ++ star :: later := by
    rw [bytesOf_eq, starred, tokens_replicate]
    rcases tokens_bytes_cons '*' more with
      ⟨wrong, -⟩ | ⟨-, star, later, isStar, -, read⟩ | ⟨-, wrong, -⟩
    · exact absurd wrong (by decide)
    · exact ⟨star, _, isStar, by rw [read]⟩
    · exact absurd rfl wrong
  rw [read] at cut
  by_cases slashed : slash ∈ before
  · obtain ⟨front, back, whole, inside⟩ := ChunkId.exists_last_mark slashed
    rw [whole, List.append_assoc, List.cons_append, bytesOf_eq] at split
    obtain ⟨directory, tail, chars, -, behind⟩ := split_at_mark (by decide : '/'.val ≤ 127) split
    refine Or.inr ⟨String.ofList directory, String.ofList tail, String.toList_inj.mp ?_, ?_⟩
    · rw [toList_below, String.toList_ofList, String.toList_ofList, chars]
    · rw [wildcard_iff, read, bytesOf_eq, String.toList_ofList, behind]
      exact cut.append isStar inside
  · refine Or.inl (wildcard_iff.mpr ?_)
    rw [read, split]
    exact cut.append isStar slashed

/-! ### Where it is not -/

/-- The shortest text that tokens cover, with one byte wherever there is a choice. -/
def shortest (filler : UInt8) : List Token → List UInt8
  | [] => []
  | .oneByte :: rest => filler :: shortest filler rest
  | .literal byte :: rest => byte :: shortest filler rest
  | .anything :: rest | .withinSegment :: rest => shortest filler rest

theorem cut_shortest {filler : UInt8} (inside : filler ≠ slash) (tokens : List Token) :
    Cut tokens (shortest filler tokens) := by
  induction tokens with
  | nil => exact cut_nil.mpr rfl
  | cons token rest inductionHypothesis =>
    rw [cut_cons]
    cases token with
    | anything => exact ⟨[], _, trivial, inductionHypothesis, rfl⟩
    | withinSegment => exact ⟨[], _, List.not_mem_nil, inductionHypothesis, rfl⟩
    | oneByte => exact ⟨[filler], _, ⟨filler, inside, rfl⟩, inductionHypothesis, rfl⟩
    | literal byte => exact ⟨[byte], _, rfl, inductionHypothesis, rfl⟩

theorem Cut.length_shortest_le {tokens : List Token} {text : List UInt8} (cut : Cut tokens text)
    (filler : UInt8) : (shortest filler tokens).length ≤ text.length := by
  induction tokens generalizing text with
  | nil => exact Nat.zero_le _
  | cons token rest inductionHypothesis =>
    obtain ⟨piece, tail, takes, further, rfl⟩ := cut_cons.mp cut
    have shorter := inductionHypothesis further
    rw [List.length_append]
    cases token with
    | anything | withinSegment => exact Nat.le_add_left_of_le shorter
    | oneByte =>
      obtain ⟨byte, -, rfl⟩ := takes
      rw [shortest, List.length_cons, List.length_singleton, Nat.add_comm]
      exact Nat.add_le_add_left shorter 1
    | literal byte =>
      cases takes
      rw [shortest, List.length_cons, List.length_singleton, Nat.add_comm]
      exact Nat.add_le_add_left shorter 1

theorem shortest_literals (filler : UInt8) (encoded : List UInt8) (tokens : List Token) :
    shortest filler (encoded.map .literal ++ tokens) = encoded ++ shortest filler tokens := by
  induction encoded with
  | nil => rfl
  | cons byte others inductionHypothesis => exact congrArg (byte :: ·) inductionHypothesis

theorem shortest_marks (filler : UInt8) (marks : Nat) (tokens : List Token) :
    shortest filler (List.replicate marks .oneByte ++ tokens) =
      List.replicate marks filler ++ shortest filler tokens := by
  induction marks with
  | zero => rfl
  | succ marks inductionHypothesis => exact congrArg (filler :: ·) inductionHypothesis

/-- The shortest text of a pattern is made of characters, too. -/
theorem exists_shortest {filler : Char} (ascii : filler.val ≤ 127) (chars : List Char) :
    ∃ word, bytes word = shortest filler.toUInt8 (tokens (bytes chars)) := by
  induction size : chars.length using Nat.strong_induction_on generalizing chars with
  | _ length inductionHypothesis =>
    subst size
    cases chars with
    | nil => exact ⟨[], rfl⟩
    | cons char rest =>
      rcases tokens_bytes_cons char rest with ⟨-, read⟩ | ⟨-, star, later, isStar, suffix, read⟩ |
        ⟨-, -, read⟩
      · obtain ⟨word, same⟩ := inductionHypothesis rest.length (Nat.lt_succ_self _) rest rfl
        refine ⟨filler :: word, ?_⟩
        rw [read, bytes_cons_of_ascii ascii, same]
        rfl
      · obtain ⟨word, same⟩ :=
          inductionHypothesis later.length (Nat.lt_succ_of_le suffix.length_le) later rfl
        refine ⟨word, ?_⟩
        rw [read, same]
        rcases isStar with rfl | rfl <;> rfl
      · obtain ⟨word, same⟩ := inductionHypothesis rest.length (Nat.lt_succ_self _) rest rfl
        exact ⟨char :: word, by rw [read, shortest_literals, bytes_cons, same]⟩

theorem exists_marks (chars : List Char) : ∃ marks rest,
    chars = List.replicate marks '?' ++ rest ∧ rest.head? ≠ some '?' := by
  induction chars with
  | nil => exact ⟨0, [], rfl, by simp⟩
  | cons char others inductionHypothesis =>
    by_cases mark : char = '?'
    · obtain ⟨marks, rest, rfl, other⟩ := inductionHypothesis
      exact ⟨marks + 1, rest, by rw [mark, List.replicate_succ, List.cons_append], other⟩
    · exact ⟨0, char :: others, rfl, by simpa using mark⟩

theorem Cut.drop_marks {marks : Nat} {more : List Token} {text : List UInt8}
    (cut : Cut (List.replicate marks .oneByte ++ more) text) : Cut more (text.drop marks) := by
  induction marks generalizing text with
  | zero => exact cut
  | succ marks inductionHypothesis =>
    obtain ⟨_, rest, ⟨byte, -, rfl⟩, further, rfl⟩ := cut_cons.mp cut
    exact inductionHypothesis further

/-- A character that stands for itself does not cover a text that starts with another one. -/
theorem not_cut_filler {filler : Char} (ascii : filler.val ≤ 127) {chars : List Char}
    (noMark : chars.head? ≠ some '?') (noStar : chars.head? ≠ some '*')
    (other : chars.head? ≠ some filler) (text : List UInt8) :
    ¬ Cut (tokens (bytes chars)) (filler.toUInt8 :: text) := by
  intro cut
  cases chars with
  | nil => exact List.cons_ne_nil _ _ (cut_nil.mp cut)
  | cons char rest =>
    simp only [List.head?_cons, ne_eq, Option.some.injEq] at noMark noStar other
    rcases tokens_bytes_cons char rest with ⟨mark, -⟩ | ⟨star, -⟩ | ⟨-, -, read⟩
    · exact noMark mark
    · exact noStar star
    · rw [read] at cut
      cases encoded : String.utf8EncodeChar char with
      | nil => exact absurd encoded String.utf8EncodeChar_ne_nil
      | cons byte others =>
        rw [encoded] at cut
        obtain ⟨piece, _, takes, -, split⟩ := cut_cons.mp cut
        cases takes
        obtain ⟨same, -⟩ := List.cons.inj split
        refine not_mem_utf8EncodeChar ascii other ?_
        rw [encoded, same]
        exact List.mem_cons_self

/-- If the rest of a pattern fixes a character before it comes to a star, it covers a text that is
preceded by something in its segment, but does not cover the whole segment. -/
theorem exists_not_fromSegment {rest : String} {marks : Nat} {chars : List Char}
    (split : rest.toList = List.replicate marks '?' ++ chars) (noMark : chars.head? ≠ some '?')
    (noStar : chars.head? ≠ some '*') :
    ∃ path, selects ("**/" ++ rest) path = true ∧ ¬ FromSegment rest path := by
  obtain ⟨filler, ascii, noSlash, other⟩ : ∃ filler : Char, filler.val ≤ 127 ∧ filler ≠ '/' ∧
      chars.head? ≠ some filler := by
    by_cases taken : chars.head? = some 'x'
    · exact ⟨'y', by decide, by decide, by rw [taken]; decide⟩
    · exact ⟨'x', by decide, by decide, taken⟩
  have inside : filler.toUInt8 ≠ slash := by
    intro same
    refine not_mem_utf8EncodeChar (by decide : '/'.val ≤ 127) noSlash ?_
    rw [utf8EncodeChar_of_ascii ascii, same]
    exact List.mem_singleton_self _
  obtain ⟨word, shortened⟩ := exists_shortest ascii rest.toList
  have path : bytesOf (String.ofList (filler :: word)) =
      [filler.toUInt8] ++ shortest filler.toUInt8 (tokens (bytesOf rest)) := by
    rw [bytesOf_eq, String.toList_ofList, bytes_cons_of_ascii ascii, shortened, bytesOf_eq]
    rfl
  refine ⟨String.ofList (filler :: word),
    selects_anywhere.mpr ⟨_, _, path, cut_shortest inside _⟩, ?_⟩
  rintro (whole | ⟨directory, tail, below, covered⟩)
  · have moved (text : List UInt8) :
        [filler.toUInt8] ++ (List.replicate marks filler.toUInt8 ++ text) =
        List.replicate marks filler.toUInt8 ++ filler.toUInt8 :: text := by
      rw [← List.append_assoc, List.singleton_append, ← List.replicate_succ, List.replicate_succ',
        List.append_assoc, List.singleton_append]
    rw [wildcard_iff, path, bytesOf_eq, split, tokens_replicate, shortest_marks, moved] at whole
    have behind := whole.drop_marks
    rw [List.drop_left' List.length_replicate] at behind
    exact not_cut_filler ascii noMark noStar other _ behind
  · -- Behind a slash there is less left than any text that the rest covers.
    have chars := congrArg String.toList below
    rw [String.toList_ofList, toList_below] at chars
    cases front : directory.toList with
    | nil =>
      rw [front] at chars
      exact noSlash (List.cons.inj chars).1
    | cons first others =>
      rw [front, List.cons_append] at chars
      have enough := (wildcard_iff.mp covered).length_shortest_le filler.toUInt8
      rw [bytesOf_eq, ← shortened, (List.cons.inj chars).2, bytes_append,
        bytes_cons_of_ascii (by decide), ← bytesOf_eq, List.length_append,
        List.length_cons] at enough
      omega

/-- Behind two stars and a slash, the rest of a pattern may start at any byte of a path. What it
selects is covered from the beginning of a segment on, whatever the path, exactly if the rest
comes to a star before any character that stands for itself. -/
theorem selects_fromSegment_iff (rest : String) :
    (∀ path, selects ("**/" ++ rest) path = true ↔
      ∃ before after, bytesOf path = before ++ after ∧ Cut (tokens (bytesOf rest)) after) ∧
    ((∀ path, selects ("**/" ++ rest) path = true → FromSegment rest path) ↔
      ∃ marks more, rest.toList = List.replicate marks '?' ++ '*' :: more) := by
  refine ⟨fun path => selects_anywhere, fun always => ?_, ?_⟩
  · obtain ⟨marks, chars, split, noMark⟩ := exists_marks rest.toList
    by_contra unstarred
    have noStar : chars.head? ≠ some '*' := by
      intro star
      obtain ⟨more, rfl⟩ := List.head?_eq_some_iff.mp star
      exact unstarred ⟨marks, more, split⟩
    obtain ⟨path, selected, notThere⟩ := exists_not_fromSegment split noMark noStar
    exact notThere (always path selected)
  · rintro ⟨marks, more, starred⟩ path selected
    exact fromSegment_of_star starred selected

/-- A longer name is selected for its end. -/
example : selects "**/name" "xname" = true ∧ wildcard "name" "xname" = false := by decide +kernel

end Pattern

end Chunking
