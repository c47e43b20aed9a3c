/-
The numbers that ids carry. An id that was written with a number is read as that
number, as long as the number is not too great. An id that was written without one
is read by its name: if the name ends in a number sign and digits, these count as the
number of the id, although nobody has given it out.
-/

import Chunking.Proofs.Identifiers
import Mathlib.Data.List.Induction

namespace Chunking.ChunkId

/-! ### Behind the last number sign -/

theorem reversedSuffix?_append {digits : List Char} (unmarked : '#' ∉ digits) (rest : List Char) :
    reversedSuffix? (digits ++ '#' :: rest) = some digits := by
  induction digits with
  | nil => rw [List.nil_append, reversedSuffix?]
  | cons char more inductionHypothesis =>
    rw [List.mem_cons, not_or] at unmarked
    rw [List.cons_append, reversedSuffix?, inductionHypothesis unmarked.2]
    · rfl
    · exact Ne.symm unmarked.1

theorem reversedSuffix?_of_not_mem {chars : List Char} (unmarked : '#' ∉ chars) :
    reversedSuffix? chars = none := by
  induction chars with
  | nil => rfl
  | cons char rest inductionHypothesis =>
    rw [List.mem_cons, not_or] at unmarked
    rw [reversedSuffix?, inductionHypothesis unmarked.2]
    · rfl
    · exact Ne.symm unmarked.1

theorem reversedSuffix?_toList {id : String} {front digits : List Char}
    (split : id.toList = front ++ '#' :: digits) (unmarked : '#' ∉ digits) :
    reversedSuffix? id.toList.reverse = some digits.reverse := by
  rw [split, List.reverse_append, List.reverse_cons, List.append_assoc]
  exact reversedSuffix?_append (by rwa [List.mem_reverse]) _

/-! ### Reading -/

theorem ordinal?_of_not_mem {id : String} (unmarked : '#' ∉ id.toList) : ordinal? id = some 0 := by
  rw [ordinal?, reversedSuffix?_of_not_mem (by rwa [List.mem_reverse])]

/-- What stands behind the last number sign says nothing unless it is made of digits. -/
theorem ordinal?_of_other {id : String} {front suffix : List Char}
    (split : id.toList = front ++ '#' :: suffix) (unmarked : '#' ∉ suffix) {char : Char}
    (member : char ∈ suffix) (other : char.isDigit = false) : ordinal? id = some 0 := by
  have among : char ∈ suffix.reverse := List.mem_reverse.mpr member
  rw [ordinal?, reversedSuffix?_toList split unmarked]
  cases reversed : suffix.reverse with
  | nil => rfl
  | cons last more =>
    rw [reversed] at among
    have mixed : ¬ (last :: more).all Char.isDigit = true := by
      rw [List.all_eq_true]
      intro digits
      rw [digits char among] at other
      cases other
    simp only
    rw [if_neg mixed]

/-- The number of an id is found behind its last colon. -/
theorem ordinal?_behind_colon {id name : String} {front : List Char}
    (split : id.toList = front ++ ':' :: name.toList) : ordinal? id = ordinal? name := by
  by_cases marked : '#' ∈ name.toList
  · obtain ⟨before, digits, inName, unmarked⟩ := exists_last_mark marked
    have inId : id.toList = (front ++ ':' :: before) ++ '#' :: digits := by
      rw [split, inName, List.append_assoc, List.cons_append]
    rw [ordinal?, ordinal?, reversedSuffix?_toList inId unmarked,
      reversedSuffix?_toList inName unmarked]
  · rw [ordinal?_of_not_mem marked]
    by_cases early : '#' ∈ front
    · -- A mark in front of the colon has the colon behind it, which is no digit.
      obtain ⟨before, middle, inFront, unmarked⟩ := exists_last_mark early
      have inId : id.toList = before ++ '#' :: (middle ++ ':' :: name.toList) := by
        rw [split, inFront, List.append_assoc, List.cons_append]
      have rest : '#' ∉ middle ++ ':' :: name.toList := by
        rw [List.mem_append, List.mem_cons, not_or, not_or]
        exact ⟨unmarked, by decide, marked⟩
      exact ordinal?_of_other inId rest
        (List.mem_append_right _ List.mem_cons_self) (by decide)
    · refine ordinal?_of_not_mem ?_
      rw [split, List.mem_append, List.mem_cons, not_or, not_or]
      exact ⟨early, by decide, marked⟩

theorem reversedValue_reverse (chars : List Char) :
    reversedValue chars.reverse = Nat.ofDigitChars 10 chars 0 := by
  induction chars using List.reverseRecOn with
  | nil => rfl
  | append_singleton front digit inductionHypothesis =>
    rw [List.reverse_append, List.reverse_singleton, List.singleton_append, reversedValue,
      inductionHypothesis, Nat.ofDigitChars, Nat.ofDigitChars, List.foldl_append, List.foldl_cons,
      List.foldl_nil, Nat.add_comm]

/-! ### The numbers of ids that were given out -/

/-- The number that a name brings along. -/
def carried (name : String) : Nat :=
  (ordinal? name).getD 0

theorem carried_lt (name : String) : carried name < ordinalLimit := by
  unfold carried ordinal?
  split
  · simp only
    split
    · split
      next fits => exact fits
      next => exact (by decide : 0 < ordinalLimit)
    · exact (by decide : 0 < ordinalLimit)
  · exact (by decide : 0 < ordinalLimit)

theorem carried_displayName (name : String) : carried (displayName name) = carried name := by
  rw [displayName]
  split
  next empty =>
    rw [String.isEmpty_iff.mp empty, carried, carried, ordinal?_of_not_mem (by decide),
      ordinal?_of_not_mem (by decide)]
  next => rfl

/-- An id without a number is read by its name. -/
theorem ordinal?_format_zero (file : String) (kind : Kind) (name : String) :
    ordinal? (format file kind name 0) = ordinal? (displayName name) := by
  have split : (format file kind name 0).toList =
      (file.toList ++ ':' :: ':' :: (kind.tag.toList ++ [':'])) ++
        ':' :: (displayName name).toList := by
    rw [toList_format, numbering, if_pos rfl, List.append_nil]
    simp only [List.append_assoc, List.cons_append, List.nil_append]
  exact ordinal?_behind_colon split

/-- An id with a number is read as that number. -/
theorem ordinal?_format_of_ne_zero (file : String) (kind : Kind) (name : String) {ordinal : Nat}
    (nonzero : ordinal ≠ 0) : ordinal? (format file kind name ordinal) =
      if ordinal < ordinalLimit then some ordinal else none := by
  have split : (format file kind name ordinal).toList =
      (file ++ "::" ++ key kind name).toList ++ '#' :: Nat.toDigits 10 ordinal := by
    rw [format, if_neg nonzero, toList_numbered _ nonzero, numbering, if_neg nonzero]
  have value : reversedValue (Nat.toDigits 10 ordinal).reverse = ordinal := by
    rw [reversedValue_reverse, Nat.ofDigitChars_ten_toDigits]
  have digits : (Nat.toDigits 10 ordinal).reverse.all Char.isDigit = true := by
    rw [List.all_eq_true]
    exact fun char member => digits_toDigits (List.mem_reverse.mp member)
  rw [ordinal?, reversedSuffix?_toList split (mark_not_mem_toDigits ordinal)]
  cases reversed : (Nat.toDigits 10 ordinal).reverse with
  | nil => exact absurd (List.reverse_eq_nil_iff.mp reversed) Nat.toDigits_ne_nil
  | cons last more =>
    rw [reversed] at value digits
    simp only
    rw [if_pos digits, value]

/-- What an id is read as: the number that was given out, or the one of the name if that was
zero. -/
theorem ordinal?_format_eq_some {file : String} {kind : Kind} {name : String} {ordinal number : Nat}
    (reads : ordinal? (format file kind name ordinal) = some number) :
    number = ordinal ∨ number = carried name := by
  by_cases unnumbered : ordinal = 0
  · refine Or.inr ?_
    rw [unnumbered, ordinal?_format_zero] at reads
    rw [← carried_displayName, carried, reads, Option.getD_some]
  · refine Or.inl ?_
    rw [ordinal?_format_of_ne_zero file kind name unnumbered] at reads
    split at reads
    · exact (Option.some.inj reads).symm
    · cases reads

/-- Names that are numbered together bring along the same number. -/
theorem carried_of_key_eq {kind kind' : Kind} {name name' : String}
    (sameKey : key kind name = key kind' name') : carried name = carried name' := by
  have same := congrArg ordinal? (format_of_key_eq sameKey "" 0)
  rw [ordinal?_format_zero, ordinal?_format_zero] at same
  rw [← carried_displayName, ← carried_displayName name', carried, carried, same]

end Chunking.ChunkId
