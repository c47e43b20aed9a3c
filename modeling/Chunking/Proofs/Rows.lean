/-
The rows of a text, its lines with their terminators. Cutting a text into rows
loses nothing, and a text that ends in a line feed can be continued without
changing the rows it has. From these two facts every stretch of rows is again
the list of rows of its own text, which is what makes the lines of a window the
lines of the file that it was cut from.
-/

import Chunking.LineIndex
import Mathlib.Data.List.Basic

namespace Chunking

namespace Text

/-! ### Cutting characters -/

theorem cutLines_eq_nil {chars : List Char} : cutLines chars = [] ↔ chars = [] := by
  cases chars with
  | nil => simp [cutLines]
  | cons char rest =>
    unfold cutLines
    split
    · simp
    · split <;> simp

theorem flatten_cutLines (chars : List Char) : (cutLines chars).flatten = chars := by
  induction chars with
  | nil => rfl
  | cons char rest inductionHypothesis =>
    unfold cutLines
    split
    · rw [List.flatten_cons, inductionHypothesis, List.singleton_append]
    · split
      next none =>
        rw [cutLines_eq_nil.mp none]
        rfl
      next line lines some =>
        rw [some, List.flatten_cons] at inductionHypothesis
        rw [List.flatten_cons, List.cons_append, inductionHypothesis]

/-- A text may be continued behind a line feed without any effect on its lines. -/
theorem cutLines_append {first : List Char} (closed : first.getLast? = some '\n')
    (second : List Char) : cutLines (first ++ second) = cutLines first ++ cutLines second := by
  induction first with
  | nil => simp at closed
  | cons char rest inductionHypothesis =>
    by_cases empty : rest = []
    · subst empty
      have feed : char = '\n' := by simpa using closed
      simp [cutLines, feed]
    · have restClosed : rest.getLast? = some '\n' := by
        rwa [List.getLast?_cons_of_ne_nil empty] at closed
      rw [List.cons_append, cutLines, cutLines, inductionHypothesis restClosed]
      split
      · rfl
      · cases cut : cutLines rest with
        | nil => exact absurd (cutLines_eq_nil.mp cut) empty
        | cons line lines => rfl

/-- The first line of several is closed by a line feed, and both it and what follows are cut on
their own as they are cut together. -/
theorem cutLines_cons {chars line : List Char} {lines : List (List Char)}
    (cut : cutLines chars = line :: lines) :
    cutLines line = [line] ∧ cutLines lines.flatten = lines ∧
      (lines ≠ [] → line.getLast? = some '\n') := by
  induction chars generalizing line lines with
  | nil => simp [cutLines] at cut
  | cons char rest inductionHypothesis =>
    unfold cutLines at cut
    split at cut
    next feed =>
      obtain ⟨rfl, rfl⟩ := List.cons.inj cut
      refine ⟨by simp [cutLines, feed], by rw [flatten_cutLines], fun _ => by simp [feed]⟩
    next inside =>
      split at cut
      next none =>
        obtain ⟨rfl, rfl⟩ := List.cons.inj cut
        exact ⟨by simp [cutLines, inside], rfl, fun some => absurd rfl some⟩
      next tail tails some =>
        obtain ⟨rfl, rfl⟩ := List.cons.inj cut
        obtain ⟨single, others, closed⟩ := inductionHypothesis some
        have nonempty : tail ≠ [] := by
          rintro rfl
          simp [cutLines] at single
        refine ⟨?_, others, fun more => ?_⟩
        · rw [cutLines, if_neg inside, single]
        · rw [List.getLast?_cons_of_ne_nil nonempty, closed more]

/-- A text whose last line is closed by a line feed. -/
def EndsLine (text : String) : Prop :=
  text.toList.getLast? = some '\n'

theorem join_rawLines (text : String) : String.join (rawLines text) = text := by
  rw [← String.toList_inj, String.toList_join, rawLines, List.flatMap_map]
  simp only [String.toList_ofList, List.flatMap_id']
  exact flatten_cutLines text.toList

theorem rawLines_append {first : String} (closed : EndsLine first) (second : String) :
    rawLines (first ++ second) = rawLines first ++ rawLines second := by
  rw [rawLines, String.toList_append, cutLines_append closed, List.map_append]
  rfl

theorem rawLines_eq_nil {text : String} : rawLines text = [] ↔ text = "" := by
  rw [rawLines, List.map_eq_nil_iff, cutLines_eq_nil, String.toList_eq_nil_iff]

end Text

/-! ### Stretches of rows -/

/-- Rows that are those of the text they make up. -/
def AreRows (rows : List String) : Prop :=
  Text.rawLines (String.join rows) = rows

theorem areRows_rawLines (text : String) : AreRows (Text.rawLines text) := by
  rw [AreRows, Text.join_rawLines]

namespace AreRows

theorem head {row : String} {rest : List String} (rows : AreRows (row :: rest)) :
    Text.rawLines row = [row] ∧ AreRows rest ∧ (rest ≠ [] → Text.EndsLine row) := by
  obtain ⟨line, lines, cut, rfl, rfl⟩ := List.map_eq_cons_iff.mp rows
  obtain ⟨single, others, closed⟩ := Text.cutLines_cons cut
  refine ⟨?_, ?_, fun more => ?_⟩
  · rw [Text.rawLines, String.toList_ofList, single]
    rfl
  · rw [AreRows, Text.rawLines, String.toList_join, List.flatMap_map]
    simp only [String.toList_ofList, List.flatMap_id']
    rw [others]
  · rw [Text.EndsLine, String.toList_ofList]
    exact closed fun none => more (by rw [none, List.map_nil])

theorem drop {rows : List String} (own : AreRows rows) (count : Nat) : AreRows (rows.drop count) := by
  induction count generalizing rows with
  | zero => exact own
  | succ count inductionHypothesis =>
    cases rows with
    | nil => exact own
    | cons row rest => exact inductionHypothesis own.head.2.1

theorem take {rows : List String} (own : AreRows rows) (count : Nat) : AreRows (rows.take count) := by
  induction count generalizing rows with
  | zero => rfl
  | succ count inductionHypothesis =>
    cases rows with
    | nil => exact own
    | cons row rest =>
      obtain ⟨single, others, closed⟩ := own.head
      rw [List.take_succ_cons]
      by_cases last : rest.take count = []
      · rw [last, AreRows, String.join_cons, String.join_nil, String.append_empty]
        exact single
      · have more : rest ≠ [] := fun none => last (by rw [none, List.take_nil])
        rw [AreRows, String.join_cons, Text.rawLines_append (closed more), single,
          inductionHypothesis others]
        rfl

/-- The text of the first rows ends a line if there are further ones. -/
theorem endsLine_take {rows : List String} (own : AreRows rows) {count : Nat} (some : 0 < count)
    (more : count < rows.length) : Text.EndsLine (String.join (rows.take count)) := by
  induction rows generalizing count with
  | nil => simp at more
  | cons row rest inductionHypothesis =>
    obtain ⟨_, others, closed⟩ := own.head
    obtain ⟨count, rfl⟩ := Nat.exists_eq_succ_of_ne_zero (Nat.ne_of_gt some)
    rw [List.length_cons] at more
    rw [List.take_succ_cons, String.join_cons]
    rcases Nat.eq_zero_or_pos count with zero | positive
    · rw [zero, List.take_zero, String.join_nil, String.append_empty]
      exact closed (List.ne_nil_of_length_pos (by omega))
    · have tail : Text.EndsLine (String.join (rest.take count)) :=
        inductionHypothesis others positive (by omega)
      rw [Text.EndsLine] at tail ⊢
      rw [String.toList_append, List.getLast?_append, tail]
      rfl

end AreRows

/-! ### Slices -/

namespace LineIndex

theorem length_lines (index : LineIndex) : index.lines.length = index.size :=
  List.length_map _

variable (text : String)

/-- The rows of a slice are the rows of the text in the same place. -/
theorem rows_slice (start stop : Nat) :
    (ofText ((ofText text).slice start stop)).rows =
      ((ofText text).rows.drop start).take (stop - start) :=
  ((areRows_rawLines text).drop start).take (stop - start)

theorem lines_slice (start stop : Nat) : (ofText ((ofText text).slice start stop)).lines =
    ((ofText text).lines.drop start).take (stop - start) := by
  rw [lines, rows_slice, lines, List.map_take, List.map_drop]

theorem size_slice (start : Nat) {stop : Nat} (inside : stop ≤ (ofText text).size) :
    (ofText ((ofText text).slice start stop)).size = stop - start := by
  have inRows : stop ≤ (ofText text).rows.length := inside
  rw [size, rows_slice, List.length_take, List.length_drop]
  omega

theorem slice_self (index : LineIndex) (place : Nat) : index.slice place place = "" := by
  rw [slice, Nat.sub_self, List.take_zero, String.join_nil]

theorem slice_all : (ofText text).slice 0 (ofText text).size = text := by
  rw [slice, List.drop_zero, Nat.sub_zero, size, List.take_length]
  exact Text.join_rawLines text

theorem slice_append (index : LineIndex) {start middle stop : Nat} (before : start ≤ middle)
    (behind : middle ≤ stop) :
    index.slice start middle ++ index.slice middle stop = index.slice start stop := by
  rw [slice, slice, slice, ← String.join_append]
  have second : index.rows.drop middle = (index.rows.drop start).drop (middle - start) := by
    rw [List.drop_drop, Nat.add_sub_cancel' before]
  rw [second, show stop - start = (middle - start) + (stop - middle) by omega, List.take_add]

/-- A slice in front of further lines ends a line. -/
theorem endsLine_slice {start stop : Nat} (some : start < stop)
    (more : stop < (ofText text).size) : Text.EndsLine ((ofText text).slice start stop) := by
  have inRows : stop < (ofText text).rows.length := more
  refine ((areRows_rawLines text).drop start).endsLine_take (by omega) ?_
  rw [List.length_drop]
  exact Nat.sub_lt_sub_right (Nat.le_of_lt some) inRows

theorem slice_eq_empty {start stop : Nat} (inside : stop ≤ (ofText text).size) :
    (ofText text).slice start stop = "" ↔ stop ≤ start := by
  rw [← Text.rawLines_eq_nil]
  constructor
  · intro none
    have length := size_slice text start inside
    rw [size, ofText, none, List.length_nil] at length
    omega
  · intro reversed
    rw [slice, Nat.sub_eq_zero_of_le reversed, List.take_zero]
    rfl

end LineIndex

end Chunking
