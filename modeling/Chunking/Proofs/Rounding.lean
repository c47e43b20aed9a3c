/-
Numbers that need no rounding. A finite number is a mantissa times a power of two,
and in each format there is one way to write it that the pattern gives. Rounding
finds this way from any fraction of the same value, so a number is found again
from its value, whatever form the value has. That is why a number of single
precision outlives its time as a double: every single is a double, and the way back
finds what it came from.
-/

import Chunking.Number.Binary
import Mathlib.Data.Int.Log
import Mathlib.Data.Rat.Floor
import Mathlib.Tactic.Ring

namespace Chunking.Number

namespace Binary

/-! ### Fractions -/

/-- Scaling a fraction down divides its value by a power of two. -/
theorem scaleDown_spec (numerator : Nat) {denominator : Nat} (positive : 0 < denominator)
    (exponent : Int) :
    0 < (scaleDown numerator denominator exponent).2 ∧
      ((scaleDown numerator denominator exponent).1 : ℚ) /
          (scaleDown numerator denominator exponent).2 =
        numerator / denominator / 2 ^ exponent := by
  cases exponent with
  | ofNat shift =>
    refine ⟨Nat.mul_pos positive (Nat.two_pow_pos shift), ?_⟩
    simp only [scaleDown, Nat.pow_eq, Int.ofNat_eq_natCast, zpow_natCast, Nat.cast_mul,
      Nat.cast_pow, Nat.cast_ofNat, div_div]
  | negSucc shift =>
    refine ⟨positive, ?_⟩
    simp only [scaleDown, Nat.pow_eq, zpow_negSucc, Nat.cast_mul, Nat.cast_pow, Nat.cast_ofNat,
      div_inv_eq_mul, div_mul_eq_mul_div]

theorem log2_bounds {number : Nat} (positive : 0 < number) :
    (2 : ℚ) ^ (Nat.log2 number : Int) ≤ number ∧
      (number : ℚ) < 2 ^ ((Nat.log2 number : Int) + 1) := by
  constructor
  · rw [zpow_natCast]
    exact_mod_cast Nat.log2_self_le (Nat.ne_of_gt positive)
  · exact_mod_cast (Nat.lt_log2_self : number < _)

/-- The binary exponent of a fraction is the logarithm of its value. -/
theorem binaryExponent_eq {numerator denominator : Nat} (filled : 0 < numerator)
    (positive : 0 < denominator) :
    binaryExponent numerator denominator = Int.log 2 ((numerator : ℚ) / denominator) := by
  have two : (0 : ℚ) < 2 := by norm_num
  have above : (0 : ℚ) < numerator := Nat.cast_pos.mpr filled
  have below : (0 : ℚ) < denominator := Nat.cast_pos.mpr positive
  have value := div_pos above below
  set guess : Int := (Nat.log2 numerator : Int) - Nat.log2 denominator with guessed
  -- The logarithms of the numerator and the denominator leave two exponents to choose from.
  obtain ⟨numeratorLow, numeratorHigh⟩ := log2_bounds filled
  obtain ⟨denominatorLow, denominatorHigh⟩ := log2_bounds positive
  have high : Int.log 2 ((numerator : ℚ) / denominator) < guess + 1 := by
    refine (Int.lt_zpow_iff_log_lt one_lt_two value).mp ?_
    rw [div_lt_iff₀ below, Nat.cast_ofNat]
    calc (numerator : ℚ) < 2 ^ ((Nat.log2 numerator : Int) + 1) := numeratorHigh
      _ = 2 ^ (guess + 1) * 2 ^ (Nat.log2 denominator : Int) := by
        rw [← zpow_add₀ two.ne']
        congr 1
        omega
      _ ≤ 2 ^ (guess + 1) * denominator :=
        mul_le_mul_of_nonneg_left denominatorLow (zpow_pos two _).le
  have low : guess - 1 ≤ Int.log 2 ((numerator : ℚ) / denominator) := by
    refine (Int.zpow_le_iff_le_log one_lt_two value).mp ?_
    rw [le_div_iff₀ below, Nat.cast_ofNat]
    calc (2 : ℚ) ^ (guess - 1) * denominator
        ≤ 2 ^ (guess - 1) * 2 ^ ((Nat.log2 denominator : Int) + 1) :=
          mul_le_mul_of_nonneg_left denominatorHigh.le (zpow_pos two _).le
      _ = 2 ^ (Nat.log2 numerator : Int) := by
        rw [← zpow_add₀ two.ne']
        congr 1
        omega
      _ ≤ numerator := numeratorLow
  obtain ⟨scaledPositive, scaled⟩ := scaleDown_spec numerator positive guess
  have decides :
      (scaleDown numerator denominator guess).2 ≤ (scaleDown numerator denominator guess).1 ↔
      guess ≤ Int.log 2 ((numerator : ℚ) / denominator) := by
    rw [← Int.zpow_le_iff_le_log one_lt_two value, Nat.cast_ofNat,
      ← one_le_div (zpow_pos two guess), ← scaled, one_le_div (Nat.cast_pos.mpr scaledPositive),
      Nat.cast_le]
  unfold binaryExponent
  simp only [← guessed, decides]
  split <;> omega

theorem roundHalfEven_eq {numerator denominator whole : Nat} (positive : 0 < denominator)
    (value : (numerator : ℚ) / denominator = whole) :
    roundHalfEven numerator denominator = whole := by
  have product : numerator = whole * denominator := by
    rw [div_eq_iff (Nat.cast_ne_zero.mpr positive.ne')] at value
    exact_mod_cast value
  have remainder : numerator % denominator = 0 := by rw [product, Nat.mul_mod_left]
  have quotient : numerator / denominator = whole := by rw [product, Nat.mul_div_cancel _ positive]
  simp only [roundHalfEven, remainder, quotient]
  rw [if_neg (by simp; omega)]

end Binary

/-! ### Patterns -/

namespace Format

variable {format : Format}

theorem fieldUnit_pos (format : Format) : 0 < format.fieldUnit :=
  Nat.two_pow_pos (format.precision - 1)

theorem width_pos (proper : 0 < format.precision) : 0 < format.width :=
  Nat.lt_of_lt_of_le proper (Nat.le_add_right _ _)

theorem two_pow_width (proper : 0 < format.precision) :
    2 ^ (format.width - 1) = (format.specialField + 1) * format.fieldUnit := by
  have special : format.specialField + 1 = 2 ^ format.exponentBits :=
    Nat.sub_add_cancel Nat.one_le_two_pow
  rw [special, fieldUnit, Nat.pow_eq, ← pow_add]
  congr 1
  unfold width
  omega

/-- The unsigned pattern of a mantissa and an exponent. -/
def patternOf (format : Format) (mantissa : Nat) (exponent : Int) : Nat :=
  (exponent - format.leastExponent).toNat * format.fieldUnit + mantissa

/-- A mantissa and an exponent as the pattern of a finite number gives them. The mantissa takes all
the places that there are, unless the exponent is the least one. -/
structure Canonical (format : Format) (mantissa : Nat) (exponent : Int) : Prop where
  least : format.leastExponent ≤ exponent
  short : mantissa < 2 * format.fieldUnit
  full : exponent = format.leastExponent ∨ format.fieldUnit ≤ mantissa
  bounded : format.patternOf mantissa exponent < format.specialField * format.fieldUnit

theorem Canonical.pattern_lt {mantissa : Nat} {exponent : Int}
    (canonical : format.Canonical mantissa exponent) (proper : 0 < format.precision) :
    format.patternOf mantissa exponent < 2 ^ (format.width - 1) := by
  rw [two_pow_width proper, Nat.add_mul]
  exact Nat.lt_of_lt_of_le canonical.bounded (Nat.le_add_right _ _)

theorem Canonical.pattern_eq_zero_iff {mantissa : Nat} {exponent : Int}
    (canonical : format.Canonical mantissa exponent) :
    format.patternOf mantissa exponent = 0 ↔ mantissa = 0 := by
  have unit := format.fieldUnit_pos
  rw [patternOf]
  rcases canonical.full with lowest | full
  · rw [lowest, Int.sub_self]
    simp
  · constructor <;> intro <;> omega

end Format

namespace Binary

variable {format : Format}

theorem toNat_signed (proper : 0 < format.precision) (negative : Bool) {pattern : Nat}
    (small : pattern < 2 ^ (format.width - 1)) :
    (signed negative pattern : Binary format).bits.toNat =
      if negative then 2 ^ (format.width - 1) + pattern else pattern := by
  have double : 2 ^ format.width = 2 * 2 ^ (format.width - 1) := by
    rw [← pow_succ', Nat.sub_add_cancel (Format.width_pos proper)]
  simp only [signed, ofPattern, Nat.pow_eq, BitVec.toNat_ofNat]
  refine Nat.mod_eq_of_lt ?_
  split <;> omega

theorem isNegative_signed (proper : 0 < format.precision) (negative : Bool) {pattern : Nat}
    (small : pattern < 2 ^ (format.width - 1)) :
    (signed negative pattern : Binary format).isNegative = negative := by
  rw [isNegative, BitVec.msb_eq_decide, toNat_signed proper negative small]
  cases negative with
  | true => simp
  | false => simpa using small

theorem magnitude_signed (proper : 0 < format.precision) (negative : Bool) {pattern : Nat}
    (small : pattern < 2 ^ (format.width - 1)) :
    (signed negative pattern : Binary format).magnitude = pattern := by
  rw [magnitude, toNat_signed proper negative small, Nat.pow_eq]
  cases negative with
  | true => simpa using Nat.mod_eq_of_lt small
  | false => simpa using Nat.mod_eq_of_lt small

/-- A number is made of its sign and its unsigned pattern. -/
theorem signed_magnitude (proper : 0 < format.precision) (number : Binary format) :
    signed number.isNegative number.magnitude = number := by
  have double : 2 ^ format.width = 2 * 2 ^ (format.width - 1) := by
    rw [← pow_succ', Nat.sub_add_cancel (Format.width_pos proper)]
  have small : number.magnitude < 2 ^ (format.width - 1) := Nat.mod_lt _ (Nat.two_pow_pos _)
  have size := number.bits.isLt
  cases number with
  | mk bits =>
  refine congrArg Binary.mk (BitVec.eq_of_toNat_eq ?_)
  change (signed _ _ : Binary format).bits.toNat = _
  rw [toNat_signed proper _ small, isNegative, magnitude, Nat.pow_eq, BitVec.msb_eq_decide]
  simp only [decide_eq_true_eq] at size ⊢
  split
  next top =>
    have low : bits.toNat - 2 ^ (format.width - 1) < 2 ^ (format.width - 1) := by omega
    rw [Nat.mod_eq_sub_mod top, Nat.mod_eq_of_lt low]
    omega
  next bottom => exact Nat.mod_eq_of_lt (Nat.lt_of_not_le bottom)

/-- The pattern of a finite number gives its mantissa and its exponent. -/
theorem meaning_signed (proper : 0 < format.precision) (negative : Bool) {mantissa : Nat}
    {exponent : Int} (canonical : format.Canonical mantissa exponent) :
    (signed negative (format.patternOf mantissa exponent) : Binary format).meaning =
      .finite negative mantissa exponent := by
  have small := canonical.pattern_lt proper
  have unit := format.fieldUnit_pos
  have least := canonical.least
  have notSpecial : format.patternOf mantissa exponent / format.fieldUnit ≠ format.specialField :=
    Nat.ne_of_lt ((Nat.div_lt_iff_lt_mul unit).mpr canonical.bounded)
  simp only [meaning, magnitude_signed proper negative small,
    isNegative_signed proper negative small, if_neg notSpecial]
  by_cases subnormal : mantissa < format.fieldUnit
  · have lowest : exponent = format.leastExponent :=
      canonical.full.resolve_right (Nat.not_le_of_lt subnormal)
    have pattern : format.patternOf mantissa exponent = mantissa := by
      simp [Format.patternOf, lowest]
    rw [pattern, Nat.div_eq_of_lt subnormal, Nat.mod_eq_of_lt subnormal, lowest]
    rfl
  · have short := canonical.short
    have pattern : format.patternOf mantissa exponent =
        (mantissa - format.fieldUnit) +
          ((exponent - format.leastExponent).toNat + 1) * format.fieldUnit := by
      rw [Format.patternOf, Nat.add_mul]
      omega
    have fraction : mantissa - format.fieldUnit < format.fieldUnit := by omega
    rw [pattern, Nat.add_mul_div_right _ _ unit, Nat.add_mul_mod_self_right,
      Nat.div_eq_of_lt fraction, Nat.mod_eq_of_lt fraction, if_neg (by omega)]
    simp only [Meaning.finite.injEq, true_and]
    omega

/-- A finite number is made of the mantissa and the exponent that its pattern gives. -/
theorem eq_of_meaning (proper : 0 < format.precision) {number : Binary format} {negative : Bool}
    {mantissa : Nat} {exponent : Int}
    (meant : number.meaning = .finite negative mantissa exponent) :
    format.Canonical mantissa exponent ∧
      number = signed negative (format.patternOf mantissa exponent) := by
  have unit := format.fieldUnit_pos
  have parts := Nat.div_add_mod number.magnitude format.fieldUnit
  have fraction : number.magnitude % format.fieldUnit < format.fieldUnit := Nat.mod_lt _ unit
  have field : number.magnitude / format.fieldUnit < format.specialField + 1 := by
    rw [Nat.div_lt_iff_lt_mul unit, ← Format.two_pow_width proper]
    exact Nat.mod_lt _ (Nat.two_pow_pos _)
  have bounded : number.magnitude / format.fieldUnit ≠ format.specialField →
      number.magnitude < format.specialField * format.fieldUnit := fun different =>
    (Nat.div_lt_iff_lt_mul unit).mp (Nat.lt_of_le_of_ne (Nat.le_of_lt_succ field) different)
  suffices made : number.isNegative = negative ∧
      number.magnitude = format.patternOf mantissa exponent ∧
      format.Canonical mantissa exponent by
    obtain ⟨sign, pattern, canonical⟩ := made
    rw [← sign, ← pattern, signed_magnitude proper]
    exact ⟨canonical, rfl⟩
  unfold meaning at meant
  dsimp only at meant
  split at meant
  · split at meant <;> cases meant
  next notSpecial =>
    split at meant
    next subnormal =>
      cases meant
      have pattern : number.magnitude =
          format.patternOf (number.magnitude % format.fieldUnit) format.leastExponent := by
        rw [subnormal, Nat.mul_zero, Nat.zero_add] at parts
        rw [Format.patternOf, Int.sub_self, Int.toNat_zero, Nat.zero_mul, Nat.zero_add, parts]
      exact ⟨rfl, pattern, Int.le_refl _, by omega, Or.inl rfl, pattern ▸ bounded notSpecial⟩
    next normal =>
      cases meant
      have places : (format.leastExponent + (number.magnitude / format.fieldUnit : Nat) - 1 -
          format.leastExponent).toNat + 1 = number.magnitude / format.fieldUnit := by
        generalize number.magnitude / format.fieldUnit = field at normal
        omega
      have pattern : number.magnitude =
          format.patternOf (format.fieldUnit + number.magnitude % format.fieldUnit)
            (format.leastExponent + (number.magnitude / format.fieldUnit : Nat) - 1) := by
        rw [Format.patternOf, ← Nat.add_assoc, ← Nat.succ_mul, Nat.succ_eq_add_one, places,
          Nat.mul_comm]
        exact parts.symm
      have least : format.leastExponent ≤
          format.leastExponent + (number.magnitude / format.fieldUnit : Nat) - 1 := by
        generalize number.magnitude / format.fieldUnit = field at normal
        omega
      exact ⟨rfl, pattern, least, by omega, Or.inr (Nat.le_add_right _ _),
        pattern ▸ bounded notSpecial⟩

/-! ### Exact rounding -/

theorem cast_fieldUnit (proper : 0 < format.precision) :
    (format.fieldUnit : ℚ) = 2 ^ ((format.precision : Int) - 1) := by
  rw [Format.fieldUnit, Nat.pow_eq, Nat.cast_pow, Nat.cast_ofNat, ← zpow_natCast,
    Nat.cast_sub proper, Nat.cast_one]

/-- From the logarithm of its value a number gets its exponent back. -/
theorem exponent_eq {mantissa : Nat} {exponent : Int}
    (canonical : format.Canonical mantissa exponent) (proper : 0 < format.precision)
    {numerator denominator : Nat} (something : 0 < numerator) (positive : 0 < denominator)
    (value : (numerator : ℚ) / denominator = mantissa * 2 ^ exponent) :
    max (binaryExponent numerator denominator - (format.precision - 1)) format.leastExponent =
      exponent := by
  have two : (0 : ℚ) < 2 := by norm_num
  have power := zpow_pos two exponent
  have valuePositive : (0 : ℚ) < numerator / denominator :=
    div_pos (Nat.cast_pos.mpr something) (Nat.cast_pos.mpr positive)
  have high : Int.log 2 ((numerator : ℚ) / denominator) < exponent + format.precision := by
    refine (Int.lt_zpow_iff_log_lt one_lt_two valuePositive).mp ?_
    have short : (mantissa : ℚ) < 2 * format.fieldUnit := by exact_mod_cast canonical.short
    rw [value, Nat.cast_ofNat]
    calc (mantissa : ℚ) * 2 ^ exponent < 2 * format.fieldUnit * 2 ^ exponent :=
          mul_lt_mul_of_pos_right short power
      _ = 2 ^ (exponent + format.precision) := by
        rw [cast_fieldUnit proper, ← zpow_one_add₀ two.ne', ← zpow_add₀ two.ne']
        congr 1
        omega
  rw [binaryExponent_eq something positive]
  have least := canonical.least
  rcases canonical.full with lowest | full
  · omega
  · have low :
        exponent + (format.precision - 1) ≤ Int.log 2 ((numerator : ℚ) / denominator) := by
      refine (Int.zpow_le_iff_le_log one_lt_two valuePositive).mp ?_
      have filled : (format.fieldUnit : ℚ) ≤ mantissa := by exact_mod_cast full
      rw [value, Nat.cast_ofNat, zpow_add₀ two.ne', ← cast_fieldUnit proper, mul_comm]
      exact mul_le_mul_of_nonneg_right filled power.le
    omega

/-- A fraction that has the value of a number is rounded to this number. -/
theorem ofFraction_eq {mantissa : Nat} {exponent : Int}
    (canonical : format.Canonical mantissa exponent) (proper : 0 < format.precision)
    (negative : Bool) {numerator denominator : Nat} (positive : 0 < denominator)
    (value : (numerator : ℚ) / denominator = mantissa * 2 ^ exponent) :
    (ofFraction negative numerator denominator : Binary format) =
      signed negative (format.patternOf mantissa exponent) := by
  have power : (2 : ℚ) ^ exponent ≠ 0 := zpow_ne_zero exponent two_ne_zero
  have below : (denominator : ℚ) ≠ 0 := Nat.cast_ne_zero.mpr positive.ne'
  have nothing : numerator = 0 ↔ mantissa = 0 := by
    have zero : (numerator : ℚ) / denominator = 0 ↔ (mantissa : ℚ) * 2 ^ exponent = 0 := by
      rw [value]
    rwa [div_eq_zero_iff, or_iff_left below, mul_eq_zero, or_iff_left power, Nat.cast_eq_zero,
      Nat.cast_eq_zero] at zero
  rcases Nat.eq_zero_or_pos numerator with zero | something
  · rw [ofFraction, if_pos zero, canonical.pattern_eq_zero_iff.mpr (nothing.mp zero)]
  · obtain ⟨scaledPositive, scaled⟩ := scaleDown_spec numerator positive exponent
    rw [value, mul_div_cancel_right₀ _ power] at scaled
    rw [ofFraction, if_neg (Nat.ne_of_gt something)]
    simp only [exponent_eq canonical proper something positive value,
      roundHalfEven_eq scaledPositive scaled]
    exact if_neg (Nat.not_le_of_lt canonical.bounded)

theorem ofDyadic_eq {mantissa : Nat} {exponent : Int}
    (canonical : format.Canonical mantissa exponent) (proper : 0 < format.precision)
    (negative : Bool) {factor : Nat} {place : Int}
    (value : (factor : ℚ) * 2 ^ place = mantissa * 2 ^ exponent) :
    (ofDyadic negative factor place : Binary format) =
      signed negative (format.patternOf mantissa exponent) := by
  cases place with
  | ofNat shift =>
    refine ofFraction_eq canonical proper negative Nat.one_pos ?_
    rw [← value]
    simp [Nat.pow_eq]
  | negSucc shift =>
    refine ofFraction_eq canonical proper negative (Nat.two_pow_pos _) ?_
    rw [← value, Nat.pow_eq, zpow_negSucc, Nat.cast_pow, Nat.cast_ofNat, div_eq_mul_inv]

/-- A number is found again from its value. -/
theorem ofDyadic_meaning (proper : 0 < format.precision) {number : Binary format} {negative : Bool}
    {mantissa : Nat} {exponent : Int} (meant : number.meaning = .finite negative mantissa exponent)
    {factor : Nat} {place : Int} (value : (factor : ℚ) * 2 ^ place = mantissa * 2 ^ exponent) :
    ofDyadic negative factor place = number := by
  obtain ⟨canonical, made⟩ := eq_of_meaning proper meant
  rw [made]
  exact ofDyadic_eq canonical proper negative value

end Binary

/-! ### Wider formats -/

theorem Format.canonical_zero {format : Format} (wide : 0 < format.specialField) :
    format.Canonical 0 format.leastExponent where
  least := Int.le_refl _
  short := Nat.mul_pos Nat.two_pos format.fieldUnit_pos
  full := Or.inl rfl
  bounded := by
    rw [patternOf, Int.sub_self]
    simpa using Nat.mul_pos wide format.fieldUnit_pos

theorem Format.canonical_of_room {format : Format} {mantissa : Nat} {exponent : Int}
    (short : mantissa < 2 * format.fieldUnit) (least : format.leastExponent ≤ exponent)
    (full : exponent = format.leastExponent ∨ format.fieldUnit ≤ mantissa)
    (room : (exponent - format.leastExponent).toNat + 2 ≤ format.specialField) :
    format.Canonical mantissa exponent := by
  refine ⟨least, short, full, ?_⟩
  calc format.patternOf mantissa exponent
      < ((exponent - format.leastExponent).toNat + 2) * format.fieldUnit := by
        rw [patternOf, Nat.add_mul]
        omega
    _ ≤ format.specialField * format.fieldUnit := Nat.mul_le_mul_right _ room

/-- A mantissa that leaves places free is moved to the front, as far as the exponent allows. -/
theorem Format.exists_canonical {format : Format} {mantissa : Nat} {exponent : Int}
    (short : mantissa < 2 * format.fieldUnit) (least : format.leastExponent ≤ exponent)
    (room : (exponent - format.leastExponent).toNat + 2 ≤ format.specialField) :
    ∃ factor place, format.Canonical factor place ∧
      (factor : ℚ) * 2 ^ place = mantissa * 2 ^ exponent := by
  generalize distance : (exponent - format.leastExponent).toNat = gap
  induction gap generalizing mantissa exponent with
  | zero =>
    exact ⟨mantissa, exponent, canonical_of_room short least (Or.inl (by omega)) room, rfl⟩
  | succ gap inductionHypothesis =>
    by_cases full : format.fieldUnit ≤ mantissa
    · exact ⟨mantissa, exponent, canonical_of_room short least (Or.inr full) room, rfl⟩
    · have later : (exponent - 1 - format.leastExponent).toNat = gap := by omega
      obtain ⟨factor, place, canonical, value⟩ :=
        @inductionHypothesis (2 * mantissa) (exponent - 1) (by omega) (by omega) (by omega) later
      refine ⟨factor, place, canonical, ?_⟩
      rw [value, zpow_sub_one₀ two_ne_zero]
      push_cast
      ring

namespace Binary

/-- A double of the value of a single. -/
theorem meaning_convert {number : Single} {negative : Bool} {mantissa : Nat} {exponent : Int}
    (meant : number.meaning = .finite negative mantissa exponent) :
    ∃ factor place, (number.convert : Double).meaning = .finite negative factor place ∧
      (factor : ℚ) * 2 ^ place = mantissa * 2 ^ exponent := by
  obtain ⟨canonical, -⟩ := eq_of_meaning (by decide) meant
  have singleUnit : Format.single.fieldUnit = 8388608 := by decide
  have doubleUnit : Format.double.fieldUnit = 4503599627370496 := by decide
  have singleLeast : Format.single.leastExponent = -149 := by decide
  have doubleLeast : Format.double.leastExponent = -1074 := by decide
  have singleSpecial : Format.single.specialField = 255 := by decide
  have doubleSpecial : Format.double.specialField = 2047 := by decide
  have short := canonical.short
  have least := canonical.least
  have bounded := canonical.bounded
  rw [Format.patternOf, singleUnit, singleLeast, singleSpecial] at bounded
  obtain ⟨factor, place, wide, value⟩ := @Format.exists_canonical Format.double mantissa exponent
    (by omega) (by omega) (by omega)
  refine ⟨factor, place, ?_, value⟩
  rw [convert, meant]
  dsimp only
  rw [ofDyadic_eq wide (by decide) negative value.symm, meaning_signed (by decide) negative wide]

/-- A single that has become a double is found again. -/
theorem convert_convert_of_finite {number : Single} {negative : Bool} {mantissa : Nat}
    {exponent : Int} (meant : number.meaning = .finite negative mantissa exponent) :
    ((number.convert : Double).convert : Single) = number := by
  obtain ⟨factor, place, doubled, value⟩ := meaning_convert meant
  rw [convert, doubled]
  exact ofDyadic_meaning (by decide) meant value

theorem eq_infinity {format : Format} (proper : 0 < format.precision) {number : Binary format}
    {negative : Bool} (meant : number.meaning = .infinite negative) :
    number = infinity negative := by
  unfold meaning at meant
  dsimp only at meant
  split at meant
  next special =>
    split at meant
    next nothing =>
      cases meant
      have parts := Nat.div_add_mod number.magnitude format.fieldUnit
      rw [special, nothing, Nat.add_zero, Nat.mul_comm] at parts
      rw [infinity, parts, signed_magnitude proper]
    · cases meant
  · split at meant <;> cases meant

theorem magnitude_eq_zero_iff {format : Format} (proper : 0 < format.precision)
    {number : Binary format} {negative : Bool} {mantissa : Nat} {exponent : Int}
    (meant : number.meaning = .finite negative mantissa exponent) :
    number.magnitude = 0 ↔ mantissa = 0 := by
  obtain ⟨canonical, made⟩ := eq_of_meaning proper meant
  rw [made, magnitude_signed proper negative (canonical.pattern_lt proper)]
  exact canonical.pattern_eq_zero_iff

theorem meaning_zero {format : Format} (proper : 0 < format.precision)
    (wide : 0 < format.specialField) :
    (ofNat 0 : Binary format).meaning = .finite false 0 format.leastExponent := by
  have canonical := Format.canonical_zero wide
  have nothing : format.patternOf 0 format.leastExponent = 0 :=
    canonical.pattern_eq_zero_iff.mpr rfl
  have meant := meaning_signed proper false canonical
  rwa [nothing] at meant

/-- Adding nothing leaves a number as it is, but for the sign of a zero. -/
theorem add_zero {format : Format} (proper : 0 < format.precision) (wide : 0 < format.specialField)
    {number : Binary format} (isNumber : number.isNaN = false) :
    number.add (ofNat 0) = if number.magnitude = 0 then signed false 0 else number := by
  rw [add, meaning_zero proper wide]
  cases meant : number.meaning with
  | notANumber => exact absurd (decide_eq_true meant) (by rw [isNaN] at isNumber; simp [isNumber])
  | infinite negative =>
    have made := eq_infinity proper meant
    have magnitude : number.magnitude = format.specialField * format.fieldUnit := by
      rw [made, infinity, magnitude_signed proper]
      rw [Format.two_pow_width proper, Nat.add_mul]
      exact Nat.lt_add_of_pos_right (Nat.mul_pos Nat.one_pos format.fieldUnit_pos)
    rw [if_neg (magnitude ▸ Nat.ne_of_gt (Nat.mul_pos wide format.fieldUnit_pos))]
    exact made.symm
  | finite negative mantissa exponent =>
    obtain ⟨canonical, -⟩ := eq_of_meaning proper meant
    have lower : min exponent format.leastExponent = format.leastExponent :=
      Int.min_eq_right canonical.least
    have nothing : alignTo format.leastExponent false 0 format.leastExponent = 0 := by
      simp [alignTo]
    simp only [lower, magnitude_eq_zero_iff proper meant, nothing, Int.add_zero]
    by_cases zero : mantissa = 0
    · simp [alignTo, zero]
    · have positive : 0 < mantissa * 2 ^ (exponent - format.leastExponent).toNat :=
        Nat.mul_pos (Nat.pos_of_ne_zero zero) (Nat.two_pow_pos _)
      have aligned : alignTo format.leastExponent negative mantissa exponent =
          if negative then -((mantissa * 2 ^ (exponent - format.leastExponent).toNat : Nat) : Int)
          else ((mantissa * 2 ^ (exponent - format.leastExponent).toNat : Nat) : Int) := by
        simp only [alignTo, Nat.pow_eq, Nat.cast_mul]
      have sign :
          decide (alignTo format.leastExponent negative mantissa exponent < 0) = negative := by
        rw [aligned]
        cases negative with
        | true => exact decide_eq_true (by rw [if_pos rfl]; omega)
        | false => exact decide_eq_false (by rw [if_neg Bool.false_ne_true]; omega)
      have size : (alignTo format.leastExponent negative mantissa exponent).natAbs =
          mantissa * 2 ^ (exponent - format.leastExponent).toNat := by
        rw [aligned]
        split <;> omega
      rw [if_neg zero, if_neg (by omega), sign, size]
      refine ofDyadic_meaning proper meant ?_
      have places : ((exponent - format.leastExponent).toNat : Int) =
          exponent - format.leastExponent :=
        Int.toNat_of_nonneg (Int.sub_nonneg_of_le canonical.least)
      rw [Nat.cast_mul, Nat.cast_pow, Nat.cast_ofNat, mul_assoc, ← zpow_natCast, places,
        ← zpow_add₀ two_ne_zero, Int.sub_add_cancel]

end Binary

end Chunking.Number
