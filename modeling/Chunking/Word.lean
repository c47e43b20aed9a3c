/-
Words of 64 bits. Line numbers and counts are words. Where a place is moved by a
number of lines that may be negative, it is read as a signed word, which makes a
place in the upper half of the words negative, and the sum stays within the
signed words.
-/

namespace Chunking.Word

/-- One more than the greatest word. -/
def limit : Nat := 0x10000000000000000

/-- One more than the greatest signed word. -/
def signedLimit : Nat := 0x8000000000000000

/-- A word read as a signed word. -/
def signed (word : Nat) : Int :=
  if word < signedLimit then word else word - limit

theorem signed_of_lt {word : Nat} (small : word < signedLimit) : signed word = word :=
  if_pos small

/-- The word with the bits of a signed word. -/
def ofSigned (number : Int) : Nat :=
  (number % limit).toNat

theorem ofSigned_signed {word : Nat} (fits : word < limit) : ofSigned (signed word) = word := by
  unfold ofSigned signed
  unfold limit at *
  split <;> omega

/-- A place moved by a number of lines: not above the first place, and not below the greatest
signed word. -/
def moved (place : Nat) (delta : Int) : Nat :=
  (min (signed place + delta) (signedLimit - 1)).toNat

/-- As long as no bound is reached, a place is moved by just the number of lines. -/
theorem moved_of_lt {place target : Nat} {delta : Int} (small : place < signedLimit)
    (sum : place + delta = target) (bounded : target < signedLimit) :
    moved place delta = target := by
  rw [moved, signed_of_lt small, sum, Int.min_eq_left (by omega), Int.toNat_natCast]

end Chunking.Word
