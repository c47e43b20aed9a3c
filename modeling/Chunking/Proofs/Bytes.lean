/-
Characters and their bytes. A text is a row of characters, and where it is matched
it is a row of bytes. The bytes of an ASCII character occur in no other character,
so a mark found among the bytes stands among the characters at the same place, and
a text that is cut at such a mark is cut between characters.
-/

import Chunking.Workspace.Pattern
import Mathlib.Data.List.Basic

namespace Chunking

namespace Text

/-- The bytes of a row of characters. -/
def bytes (chars : List Char) : List UInt8 :=
  chars.flatMap String.utf8EncodeChar

theorem bytes_cons (char : Char) (rest : List Char) :
    bytes (char :: rest) = String.utf8EncodeChar char ++ bytes rest :=
  List.flatMap_cons

theorem bytes_append (front back : List Char) : bytes (front ++ back) = bytes front ++ bytes back :=
  List.flatMap_append

theorem utf8EncodeChar_of_ascii {mark : Char} (ascii : mark.val ≤ 127) :
    String.utf8EncodeChar mark = [mark.toUInt8] :=
  String.utf8EncodeChar_eq_singleton (Char.utf8Size_eq_one_iff.mpr ascii)

theorem bytes_cons_of_ascii {mark : Char} (ascii : mark.val ≤ 127) (rest : List Char) :
    bytes (mark :: rest) = mark.toUInt8 :: bytes rest := by
  rw [bytes_cons, utf8EncodeChar_of_ascii ascii, List.singleton_append]

theorem le_toNat_ofNat {code : Nat} (least : 128 ≤ code) (below : code < 256) :
    128 ≤ (UInt8.ofNat code).toNat := by
  rw [UInt8.toNat_ofNat', Nat.mod_eq_of_lt below]
  exact least

/-- The bytes of a character beyond ASCII are beyond ASCII as well. -/
theorem le_of_mem_utf8EncodeChar {char : Char} (wide : ¬ char.val ≤ 127) {byte : UInt8}
    (member : byte ∈ String.utf8EncodeChar char) : 128 ≤ byte.toNat := by
  have large : ¬ char.val.toNat ≤ 127 := wide
  unfold String.utf8EncodeChar at member
  simp only [large, if_false] at member
  split at member <;> [skip; split at member] <;>
    simp only [List.mem_cons, List.not_mem_nil, or_false] at member <;>
    rcases member with rfl | rfl | rfl | rfl <;> exact le_toNat_ofNat (by omega) (by omega)

/-- No byte of another character is that of an ASCII mark. -/
theorem not_mem_utf8EncodeChar {mark char : Char} (ascii : mark.val ≤ 127) (other : char ≠ mark) :
    mark.toUInt8 ∉ String.utf8EncodeChar char := by
  have small : mark.val.toNat ≤ 127 := ascii
  have code : mark.toUInt8.toNat = mark.val.toNat := Nat.mod_eq_of_lt (by omega)
  intro member
  by_cases narrow : char.val ≤ 127
  · have low : char.val.toNat ≤ 127 := narrow
    rw [utf8EncodeChar_of_ascii narrow, List.mem_singleton] at member
    have codes : char.toUInt8.toNat = char.val.toNat := Nat.mod_eq_of_lt (by omega)
    refine other (Char.ext (UInt32.toNat_inj.mp ?_))
    rw [← code, ← codes, member]
  · have high := le_of_mem_utf8EncodeChar narrow member
    omega

/-- A mark among the bytes stands among the characters. -/
theorem split_at_mark {mark : Char} (ascii : mark.val ≤ 127) {chars : List Char}
    {front back : List UInt8} (split : bytes chars = front ++ mark.toUInt8 :: back) :
    ∃ before after, chars = before ++ mark :: after ∧ bytes before = front ∧
      bytes after = back := by
  induction chars generalizing front with
  | nil => simp [bytes] at split
  | cons char rest inductionHypothesis =>
    rw [bytes_cons] at split
    rcases List.append_eq_append_iff.mp split with ⟨more, rfl, below⟩ | ⟨more, inside, below⟩
    · obtain ⟨before, after, rfl, rfl, rfl⟩ := inductionHypothesis below
      exact ⟨char :: before, after, rfl, bytes_cons _ _, rfl⟩
    · cases more with
      | nil =>
        obtain ⟨before, after, rfl, empty, rfl⟩ := @inductionHypothesis [] below.symm
        refine ⟨char :: before, after, rfl, ?_, rfl⟩
        rw [bytes_cons, empty, inside]
        simp
      | cons byte more =>
        obtain ⟨rfl, rfl⟩ := List.cons.inj below
        have same : char = mark := by
          by_contra other
          exact not_mem_utf8EncodeChar ascii other (inside ▸ by simp)
        rw [same, utf8EncodeChar_of_ascii ascii] at inside
        cases front with
        | nil =>
          obtain ⟨-, rfl⟩ := List.cons.inj inside
          exact ⟨[], rest, by rw [same]; rfl, rfl, rfl⟩
        | cons first others => simp at inside

theorem bytes_eq_nil {chars : List Char} (empty : bytes chars = []) : chars = [] := by
  cases chars with
  | nil => rfl
  | cons char rest =>
    rw [bytes_cons, List.append_eq_nil_iff] at empty
    exact absurd empty.1 String.utf8EncodeChar_ne_nil

theorem exists_cons_of_bytes {mark : Char} (ascii : mark.val ≤ 127) {chars : List Char}
    (first : (bytes chars).head? = some mark.toUInt8) : ∃ rest, chars = mark :: rest := by
  obtain ⟨more, split⟩ := List.head?_eq_some_iff.mp first
  obtain ⟨before, rest, rfl, nothing, -⟩ :=
    split_at_mark ascii (split.trans (List.nil_append _).symm)
  exact ⟨rest, by rw [bytes_eq_nil nothing, List.nil_append]⟩

theorem count_bytes {mark : Char} (ascii : mark.val ≤ 127) (chars : List Char) :
    (bytes chars).count mark.toUInt8 = chars.count mark := by
  induction chars with
  | nil => rfl
  | cons char rest inductionHypothesis =>
    rw [bytes_cons, List.count_append, inductionHypothesis, List.count_cons]
    by_cases same : char = mark
    · rw [same, utf8EncodeChar_of_ascii ascii, List.count_singleton_self]
      simp [Nat.add_comm]
    · rw [List.count_eq_zero.mpr (not_mem_utf8EncodeChar ascii same)]
      simp [same]

/-! ### Texts -/

theorem toList_loop (array : ByteArray) (place : Nat) (sofar : List UInt8) :
    ByteArray.toList.loop array place sofar = sofar.reverse ++ array.data.toList.drop place := by
  fun_induction ByteArray.toList.loop array place sofar with
  | case1 place sofar inside inductionHypothesis =>
    have here : array.get! place = array.data.toList[place] := getElem!_pos array.data place inside
    rw [inductionHypothesis, List.drop_eq_getElem_cons inside, here, List.reverse_cons,
      List.append_assoc, List.singleton_append]
  | case2 place sofar outside =>
    rw [List.drop_of_length_le (Nat.le_of_not_lt outside), List.append_nil]

end Text

namespace Pattern

open Text

theorem bytesOf_eq (text : String) : bytesOf text = bytes text.toList := by
  have encoded : text.toByteArray = (bytes text.toList).toByteArray := by
    conv_lhs => rw [← String.ofList_toList (s := text)]
    exact String.toByteArray_ofList
  rw [bytesOf, String.toUTF8_eq_toByteArray, encoded, ByteArray.toList, toList_loop, List.drop_zero,
    List.toList_data_toByteArray, List.reverse_nil, List.nil_append]

end Pattern

end Chunking
