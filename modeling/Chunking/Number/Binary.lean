/-
Binary floating-point numbers, kept as their bit patterns and computed with
exactly. Every operation finds its result as a fraction of natural numbers and
then rounds once, to the nearest number of the format and to the even one of
two that are equally near. A pattern holds the sign, the exponent field and the
fraction, in this order from the top, so that for numbers of one sign the order
of the patterns is the order of the numbers, and adding one to a pattern gives
the next number. Rounding uses this: a mantissa that rounds up to the next
power of two carries into the exponent field by itself.
-/

namespace Chunking.Number

/-- A format: `precision` counts the significant bits with the leading one, which is not stored. -/
structure Format where
  precision : Nat
  exponentBits : Nat
  deriving DecidableEq, Repr

namespace Format

def single : Format := ⟨24, 8⟩

def double : Format := ⟨53, 11⟩

/-- The number of bits of a pattern: the sign takes the place of the leading one. -/
def width (format : Format) : Nat :=
  format.precision + format.exponentBits

/-- The weight of the lowest bit of the exponent field in a pattern. -/
def fieldUnit (format : Format) : Nat :=
  Nat.pow 2 (format.precision - 1)

/-- The exponent field that marks infinities and the values that are no numbers. -/
def specialField (format : Format) : Nat :=
  Nat.pow 2 format.exponentBits - 1

/-- The exponent of the last place of the numbers nearest to zero. -/
def leastExponent (format : Format) : Int :=
  3 - Nat.pow 2 (format.exponentBits - 1) - format.precision

end Format

/-- A number of a format, given by its bit pattern. -/
structure Binary (format : Format) where
  bits : BitVec format.width
  deriving DecidableEq, Repr

abbrev Single := Binary Format.single

abbrev Double := Binary Format.double

/-- What a pattern stands for. A finite number is `mantissa * 2 ^ exponent` with a sign. -/
inductive Meaning where
  | notANumber
  | infinite (negative : Bool)
  | finite (negative : Bool) (mantissa : Nat) (exponent : Int)
  deriving DecidableEq, Repr

namespace Binary

variable {format : Format}

/-! ### Patterns -/

def ofPattern (pattern : Nat) : Binary format :=
  ⟨BitVec.ofNat format.width pattern⟩

def isNegative (number : Binary format) : Bool :=
  number.bits.msb

/-- The pattern without its sign. -/
def magnitude (number : Binary format) : Nat :=
  number.bits.toNat % Nat.pow 2 (format.width - 1)

def meaning (number : Binary format) : Meaning :=
  let field := number.magnitude / format.fieldUnit
  let fraction := number.magnitude % format.fieldUnit
  if field = format.specialField then
    if fraction = 0 then .infinite number.isNegative else .notANumber
  else if field = 0 then .finite number.isNegative fraction format.leastExponent
  else .finite number.isNegative (format.fieldUnit + fraction) (format.leastExponent + field - 1)

def notANumber : Binary format :=
  ofPattern (format.specialField * format.fieldUnit + format.fieldUnit / 2)

/-- The number with the given sign and unsigned pattern. -/
def signed (negative : Bool) (pattern : Nat) : Binary format :=
  ofPattern (if negative then Nat.pow 2 (format.width - 1) + pattern else pattern)

def infinity (negative : Bool) : Binary format :=
  signed negative (format.specialField * format.fieldUnit)

def isNaN (number : Binary format) : Bool :=
  number.meaning = .notANumber

def isFinite (number : Binary format) : Bool :=
  match number.meaning with
  | .finite .. => true
  | _ => false

/-! ### Rounding -/

/-- The nearest natural number to a fraction, the even one of two. -/
def roundHalfEven (numerator denominator : Nat) : Nat :=
  let quotient := numerator / denominator
  let remainder := numerator % denominator
  if denominator < 2 * remainder || (2 * remainder == denominator && quotient % 2 == 1) then
    quotient + 1
  else quotient

/-- A fraction divided by a power of two, again as a fraction. -/
def scaleDown (numerator denominator : Nat) (exponent : Int) : Nat × Nat :=
  match exponent with
  | .ofNat shift => (numerator, denominator * Nat.pow 2 shift)
  | .negSucc shift => (numerator * Nat.pow 2 (shift + 1), denominator)

/-- The greatest `exponent` with `2 ^ exponent ≤ numerator / denominator`, for positive fractions. -/
def binaryExponent (numerator denominator : Nat) : Int :=
  let guess : Int := (Nat.log2 numerator : Int) - Nat.log2 denominator
  let scaled := scaleDown numerator denominator guess
  if scaled.2 ≤ scaled.1 then guess else guess - 1

/-- The number of the format nearest to a fraction with a sign. -/
def ofFraction (negative : Bool) (numerator denominator : Nat) : Binary format :=
  if numerator = 0 then signed negative 0
  else
    let exponent := max (binaryExponent numerator denominator - (format.precision - 1))
      format.leastExponent
    let scaled := scaleDown numerator denominator exponent
    let pattern := (exponent - format.leastExponent).toNat * format.fieldUnit
      + roundHalfEven scaled.1 scaled.2
    if format.specialField * format.fieldUnit ≤ pattern then infinity negative
    else signed negative pattern

/-- The number nearest to `digits * 10 ^ exponent` with a sign. -/
def ofDecimal (negative : Bool) (digits : Nat) (exponent : Int) : Binary format :=
  match exponent with
  | .ofNat places => ofFraction negative (digits * Nat.pow 10 places) 1
  | .negSucc places => ofFraction negative digits (Nat.pow 10 (places + 1))

/-- The number nearest to a dyadic fraction. -/
def ofDyadic (negative : Bool) (mantissa : Nat) (exponent : Int) : Binary format :=
  match exponent with
  | .ofNat shift => ofFraction negative (mantissa * Nat.pow 2 shift) 1
  | .negSucc shift => ofFraction negative mantissa (Nat.pow 2 (shift + 1))

def ofNat (value : Nat) : Binary format :=
  ofFraction false value 1

/-- The nearest number of another format. -/
def convert {target : Format} (number : Binary format) : Binary target :=
  match number.meaning with
  | .notANumber => notANumber
  | .infinite negative => infinity negative
  | .finite negative mantissa exponent => ofDyadic negative mantissa exponent

/-! ### Arithmetic -/

def neg (number : Binary format) : Binary format :=
  signed (!number.isNegative) number.magnitude

def mul (left right : Binary format) : Binary format :=
  match left.meaning, right.meaning with
  | .notANumber, _ => notANumber
  | _, .notANumber => notANumber
  | .infinite negative, .infinite other => infinity (negative != other)
  | .infinite negative, .finite other mantissa _ =>
    if mantissa = 0 then notANumber else infinity (negative != other)
  | .finite negative mantissa _, .infinite other =>
    if mantissa = 0 then notANumber else infinity (negative != other)
  | .finite negative mantissa exponent, .finite other factor place =>
    ofDyadic (negative != other) (mantissa * factor) (exponent + place)

def div (left right : Binary format) : Binary format :=
  match left.meaning, right.meaning with
  | .notANumber, _ => notANumber
  | _, .notANumber => notANumber
  | .infinite _, .infinite _ => notANumber
  | .infinite negative, .finite other _ _ => infinity (negative != other)
  | .finite negative _ _, .infinite other => signed (negative != other) 0
  | .finite negative mantissa exponent, .finite other divisor place =>
    if divisor = 0 then if mantissa = 0 then notANumber else infinity (negative != other)
    else
      let scaled := scaleDown mantissa divisor (place - exponent)
      ofFraction (negative != other) scaled.1 scaled.2

/-- A signed multiple of `2 ^ exponent` as a multiple of the smaller `2 ^ unit`. -/
def alignTo (unit : Int) (negative : Bool) (mantissa : Nat) (exponent : Int) : Int :=
  let aligned : Int := mantissa * Nat.pow 2 (exponent - unit).toNat
  if negative then -aligned else aligned

def add (left right : Binary format) : Binary format :=
  match left.meaning, right.meaning with
  | .notANumber, _ => notANumber
  | _, .notANumber => notANumber
  | .infinite negative, .infinite other => if negative = other then infinity negative else notANumber
  | .infinite negative, _ => infinity negative
  | _, .infinite negative => infinity negative
  | .finite negative mantissa exponent, .finite other summand place =>
    let unit := min exponent place
    let sum := alignTo unit negative mantissa exponent + alignTo unit other summand place
    if sum = 0 then signed (negative && other) 0
    else ofDyadic (decide (sum < 0)) sum.natAbs unit

def sub (left right : Binary format) : Binary format :=
  left.add right.neg

/-- Strictly smaller. A value that is no number is smaller than none and greater than none. -/
def lt (left right : Binary format) : Bool :=
  match left.meaning, right.meaning with
  | .notANumber, _ => false
  | _, .notANumber => false
  | .infinite negative, .infinite other => negative && !other
  | .infinite negative, _ => negative
  | _, .infinite other => !other
  | .finite negative mantissa exponent, .finite other place rank =>
    let unit := min exponent rank
    alignTo unit negative mantissa exponent < alignTo unit other place rank

def le (left right : Binary format) : Bool :=
  !left.isNaN && !right.isNaN && !right.lt left

end Binary

end Chunking.Number
