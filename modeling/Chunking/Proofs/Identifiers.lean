/-
How ids are read. An id ends in a name and possibly in a number sign with digits.
The kind can always be read back, since its tag has no colon in it; where the name
ends and the number starts can be told as long as the name does not itself look
like one with a number.
-/

import Chunking.Proofs.Lineage
import Mathlib.Data.Nat.Digits.Defs

namespace Chunking.ChunkId

/-- A text is divided by the first of its marks in one way only. -/
theorem append_cons_inj {α : Type} {mark : α} {left right more others : List α}
    (noneLeft : mark ∉ left) (noneRight : mark ∉ right)
    (same : left ++ mark :: more = right ++ mark :: others) : left = right ∧ more = others := by
  induction left generalizing right with
  | nil =>
    cases right with
    | nil => exact ⟨rfl, (List.cons.inj same).2⟩
    | cons head tail => exact absurd ((List.cons.inj same).1 ▸ List.mem_cons_self) noneRight
  | cons head tail inductionHypothesis =>
    cases right with
    | nil => exact absurd ((List.cons.inj same).1.symm ▸ List.mem_cons_self) noneLeft
    | cons other rest =>
      obtain ⟨rfl, sameTail⟩ := List.cons.inj same
      rw [List.mem_cons, not_or] at noneLeft noneRight
      obtain ⟨rfl, rfl⟩ := inductionHypothesis noneLeft.2 noneRight.2 sameTail
      exact ⟨rfl, rfl⟩

/-- A text with a mark in it is divided by the last one. -/
theorem exists_last_mark {α : Type} {mark : α} {text : List α} (marked : mark ∈ text) :
    ∃ front back, text = front ++ mark :: back ∧ mark ∉ back := by
  obtain ⟨back, front, split, unmarked⟩ :=
    List.eq_append_cons_of_mem (List.mem_reverse.mpr marked)
  refine ⟨front.reverse, back.reverse, ?_, by rwa [List.mem_reverse]⟩
  have whole := congrArg List.reverse split
  rwa [List.reverse_reverse, List.reverse_append, List.reverse_cons, List.append_assoc] at whole

/-! ### The parts of an id -/

/-- What stands behind the name. -/
def numbering (ordinal : Nat) : List Char :=
  if ordinal = 0 then [] else '#' :: Nat.toDigits 10 ordinal

theorem toList_numbered (text : String) {ordinal : Nat} (nonzero : ordinal ≠ 0) :
    (text ++ "#" ++ toString ordinal).toList = text.toList ++ numbering ordinal := by
  have mark : "#".toList = ['#'] := rfl
  have digits : (toString ordinal).toList = Nat.toDigits 10 ordinal := Nat.toList_repr
  rw [numbering, if_neg nonzero, String.toList_append, String.toList_append, mark, digits,
    List.append_assoc, List.singleton_append]

theorem toList_format (file : String) (kind : Kind) (name : String) (ordinal : Nat) :
    (format file kind name ordinal).toList = file.toList ++ (':' :: ':' :: (kind.tag.toList ++
      (':' :: ':' :: ((displayName name).toList ++ numbering ordinal)))) := by
  have colons : "::".toList = [':', ':'] := rfl
  have whole : (format file kind name ordinal).toList =
      (file ++ "::" ++ key kind name).toList ++ numbering ordinal := by
    by_cases unnumbered : ordinal = 0
    · rw [format, if_pos unnumbered, numbering, if_pos unnumbered, List.append_nil]
    · rw [format, if_neg unnumbered, toList_numbered _ unnumbered]
  rw [whole]
  simp only [key, String.toList_append, colons, List.append_assoc, List.cons_append, List.nil_append]

theorem digits_toDigits {ordinal : Nat} {char : Char} (member : char ∈ Nat.toDigits 10 ordinal) :
    char.isDigit = true :=
  Nat.isDigit_of_mem_toDigits (by decide) (by decide) member

theorem mark_not_mem_toDigits (ordinal : Nat) : '#' ∉ Nat.toDigits 10 ordinal :=
  fun member => absurd (digits_toDigits member) (by decide)

theorem toDigits_injective {first second : Nat}
    (same : Nat.toDigits 10 first = Nat.toDigits 10 second) : first = second := by
  have value := congrArg (Nat.ofDigitChars 10 · 0) same
  simpa only [Nat.ofDigitChars_ten_toDigits] using value

theorem numbering_injective {first second : Nat} (same : numbering first = numbering second) :
    first = second := by
  unfold numbering at same
  split at same <;> split at same
  · omega
  · cases same
  · cases same
  · exact toDigits_injective (List.cons.inj same).2

theorem colon_not_mem_tag (kind : Kind) : ':' ∉ kind.tag.toList := by
  cases kind <;> decide

theorem tag_injective {first second : Kind} (same : first.tag = second.tag) : first = second := by
  cases first <;> cases second <;> first | rfl | exact absurd same (by decide)

/-- Equal ids of one file have the same kind, and are the same behind it. -/
theorem format_inj {file : String} {kind kind' : Kind} {name name' : String}
    {ordinal ordinal' : Nat} (same : format file kind name ordinal = format file kind' name' ordinal') :
    kind = kind' ∧ (displayName name).toList ++ numbering ordinal =
      (displayName name').toList ++ numbering ordinal' := by
  have chars := congrArg String.toList same
  rw [toList_format, toList_format] at chars
  have behindFile := (List.cons.inj (List.cons.inj (List.append_cancel_left chars)).2).2
  obtain ⟨tags, rest⟩ :=
    append_cons_inj (colon_not_mem_tag kind) (colon_not_mem_tag kind') behindFile
  exact ⟨tag_injective (String.toList_inj.mp tags), (List.cons.inj rest).2⟩

/-- Ids of one kind and name with different numbers differ. -/
theorem format_ordinal_inj {file : String} {kind : Kind} {name : String} {first second : Nat}
    (same : format file kind name first = format file kind name second) : first = second :=
  numbering_injective (List.append_cancel_left (format_inj same).2)

/-! ### Names that look numbered -/

/-- A name that ends in a number sign and digits. -/
def Numbered (name : String) : Prop :=
  ∃ stem digits, digits ≠ [] ∧ (∀ char ∈ digits, char.isDigit = true) ∧
    name.toList = stem ++ '#' :: digits

theorem not_numbered_of_not_mem {name : String} (none : '#' ∉ name.toList) : ¬ Numbered name := by
  rintro ⟨stem, digits, _, _, split⟩
  refine none ?_
  rw [split]
  exact List.mem_append_right _ List.mem_cons_self

theorem not_numbered_displayName {name : String} (plain : ¬ Numbered name) :
    ¬ Numbered (displayName name) := by
  unfold displayName
  split
  · exact not_numbered_of_not_mem (by decide)
  · exact plain

/-- Where a name ends and its number starts can be told, unless one name is the other one with a
number. -/
theorem numbering_cases {first second : String} {ordinal ordinal' : Nat}
    (same : first.toList ++ numbering ordinal = second.toList ++ numbering ordinal') :
    (first = second ∧ ordinal = ordinal') ∨
      (ordinal' ≠ 0 ∧ first.toList = second.toList ++ numbering ordinal') ∨
      (ordinal ≠ 0 ∧ second.toList = first.toList ++ numbering ordinal) := by
  by_cases unnumbered : ordinal = 0
  · have whole : first.toList = second.toList ++ numbering ordinal' := by
      simpa [numbering, unnumbered] using same
    by_cases alike : ordinal' = 0
    · refine Or.inl ⟨String.toList_inj.mp ?_, by omega⟩
      simpa [numbering, alike] using whole
    · exact Or.inr (Or.inl ⟨alike, whole⟩)
  · by_cases alike : ordinal' = 0
    · refine Or.inr (Or.inr ⟨unnumbered, ?_⟩)
      simpa [numbering, alike] using same.symm
    · -- Read from behind, the number sign comes first in both.
      have reversed := congrArg List.reverse same
      simp only [numbering, if_neg unnumbered, if_neg alike, List.reverse_append, List.reverse_cons,
        List.append_assoc, List.cons_append, List.nil_append] at reversed
      obtain ⟨numbers, names⟩ := append_cons_inj
        (by simpa using mark_not_mem_toDigits ordinal)
        (by simpa using mark_not_mem_toDigits ordinal') reversed
      exact Or.inl ⟨String.toList_inj.mp (List.reverse_injective names),
        toDigits_injective (List.reverse_injective numbers)⟩

theorem numbered_of_numbering {whole part : String} {number : Nat} (nonzero : number ≠ 0)
    (split : whole.toList = part.toList ++ numbering number) : Numbered whole := by
  rw [numbering, if_neg nonzero] at split
  exact ⟨part.toList, _, Nat.toDigits_ne_nil, fun _ member => digits_toDigits member, split⟩

/-- Ids of names that do not look numbered can be read back. -/
theorem readable_of_not_numbered : Readable fun _ name => ¬ Numbered name := by
  intro file kind kind' name name' ordinal ordinal' plain plain' _ _ same
  obtain ⟨rfl, behind⟩ := format_inj same
  rcases numbering_cases behind with ⟨names, numbers⟩ | ⟨nonzero, split⟩ | ⟨nonzero, split⟩
  · exact ⟨by rw [key, key, names], numbers⟩
  · exact absurd (numbered_of_numbering nonzero split) (not_numbered_displayName plain)
  · exact absurd (numbered_of_numbering nonzero split) (not_numbered_displayName plain')

end Chunking.ChunkId
