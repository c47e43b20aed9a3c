/-
A value is read from its own text. Strings come back as they are, whatever their
characters. Numbers come back as what their digits say: whole numbers as long as a
word holds them, and of a binary number a double. So the text of a value gives the
same value with other numbers in it, if it nests within the limit and the reader
passes over no member of it.

The reader looks one character ahead, and what it does with a value may depend on
what follows the text of it. In a text without spaces that is a comma, a closing
bracket or nothing, and none of these goes on with a number.
-/

import Chunking.Proofs.Identifiers
import Chunking.Version.Json
import Mathlib.Data.List.TakeDrop
import Mathlib.Data.List.TakeWhile

namespace Chunking.Json

open Number

/-! ### Strings -/

/-- What is read when a character stands in front of something. -/
def withFirst (char : Char) (found : Option (List Char × List Char)) :
    Option (List Char × List Char) :=
  found.map fun found => (char :: found.1, found.2)

theorem readString_letter {letter char : Char} (stands : escapedChar? letter = some char)
    (rest : List Char) :
    readString ('\\' :: letter :: rest) = withFirst char (readString rest) := by
  have noCode : letter ≠ 'u' := by
    intro code
    rw [code] at stands
    cases stands
  rw [readString.eq_3 letter rest fun _ _ _ _ _ code _ => noCode code, stands]
  cases readString rest <;> rfl

theorem hexNumber?_control : ∀ code < 0x20,
    hexNumber? ['0', '0', Nat.digitChar (code / 16), Nat.digitChar (code % 16)] = some code := by
  decide

theorem readString_code {code : Nat} (control : code < 0x20) (rest : List Char) :
    readString ('\\' :: 'u' :: '0' :: '0' :: Nat.digitChar (code / 16) :: Nat.digitChar (code % 16)
      :: rest) = withFirst (Char.ofNat code) (readString rest) := by
  have high : isHighSurrogate code = false := by
    simp only [isHighSurrogate, Bool.and_eq_false_iff, decide_eq_false_iff_not]
    omega
  have low : isLowSurrogate code = false := by
    simp only [isLowSurrogate, Bool.and_eq_false_iff, decide_eq_false_iff_not]
    omega
  rw [readString.eq_2, hexNumber?_control code control, Option.bind_eq_bind, Option.bind_some, high,
    low]
  cases readString rest <;> rfl

theorem readString_plain {char : Char} (noQuote : char ≠ '"') (noEscape : char ≠ '\\')
    (printable : ¬ char.toNat < 0x20) (rest : List Char) :
    readString (char :: rest) = withFirst char (readString rest) := by
  have taken : (decide (char.toNat < 0x20) || char == '\\') = false := by
    rw [decide_eq_false printable, Bool.false_or]
    exact beq_eq_false_iff_ne.mpr noEscape
  rw [readString.eq_4 char rest noQuote (fun _ _ _ _ _ escape _ => noEscape escape)
    (fun _ _ escape _ => noEscape escape), taken]
  cases readString rest <;> rfl

theorem readString_escapeChar (char : Char) (rest : List Char) :
    readString (escapeChar char ++ rest) = withFirst char (readString rest) := by
  unfold escapeChar
  split
  next quote =>
    obtain rfl := eq_of_beq quote
    exact readString_letter rfl rest
  next noQuote =>
  split
  next escape =>
    obtain rfl := eq_of_beq escape
    exact readString_letter rfl rest
  next noEscape =>
  split
  next newline =>
    obtain rfl := eq_of_beq newline
    exact readString_letter rfl rest
  split
  next carriage =>
    obtain rfl := eq_of_beq carriage
    exact readString_letter rfl rest
  split
  next tabulator =>
    obtain rfl := eq_of_beq tabulator
    exact readString_letter rfl rest
  split
  next backspace =>
    rw [← Char.ofNat_toNat char, eq_of_beq backspace]
    exact readString_letter rfl rest
  split
  next formFeed =>
    rw [← Char.ofNat_toNat char, eq_of_beq formFeed]
    exact readString_letter rfl rest
  split
  next control => exact (readString_code control rest).trans (by rw [Char.ofNat_toNat])
  next printable =>
    exact readString_plain (fun same => noQuote (beq_iff_eq.mpr same))
      (fun same => noEscape (beq_iff_eq.mpr same)) printable rest

/-- The characters between the quotes come back, and so does what follows them. -/
theorem readString_escaped (chars rest : List Char) :
    readString (chars.flatMap escapeChar ++ '"' :: rest) = some (chars, rest) := by
  induction chars with
  | nil => exact readString.eq_1 rest
  | cons char more inductionHypothesis =>
    rw [List.flatMap_cons, List.append_assoc, readString_escapeChar, inductionHypothesis]
    rfl

theorem toList_quoted (text : String) :
    (quoted text).toList = '"' :: (text.toList.flatMap escapeChar ++ ['"']) := by
  rw [quoted, String.toList_ofList, List.cons_append]

/-! ### Numbers -/

/-- What can follow the text of a value. -/
def Closes (rest : List Char) : Prop :=
  ∀ char ∈ rest.head?, char = ',' ∨ char = ']' ∨ char = '\x7d'

theorem Closes.not_isDigit {char : Char} {more : List Char} (closes : Closes (char :: more)) :
    char.isDigit = false := by
  rcases closes char rfl with rfl | rfl | rfl <;> rfl

theorem spanDigits_append {chars digits after rest : List Char} (closes : Closes rest)
    (found : spanDigits chars = (digits, after)) :
    spanDigits (chars ++ rest) = (digits, after ++ rest) := by
  rw [spanDigits, List.span_eq_takeWhile_dropWhile] at found ⊢
  obtain ⟨rfl, rfl⟩ := Prod.mk.inj found
  clear found
  induction chars with
  | nil =>
    cases rest with
    | nil => rfl
    | cons char more =>
      simp [closes.not_isDigit]
  | cons char more inductionHypothesis =>
    obtain ⟨sameDigits, sameRest⟩ := Prod.mk.inj inductionHypothesis
    by_cases digit : char.isDigit = true
    · simp [digit, sameDigits, sameRest]
    · simp [digit]

theorem readWhole_append {chars whole after rest : List Char} (closes : Closes rest)
    (found : readWhole chars = some (whole, after)) :
    readWhole (chars ++ rest) = some (whole, after ++ rest) := by
  rcases spanned : spanDigits chars with ⟨digits, behind⟩
  rw [readWhole, spanned] at found
  rw [readWhole, spanDigits_append closes spanned]
  split at found
  · cases found
  · cases found
  next empty zeros =>
    obtain ⟨rfl, rfl⟩ := Prod.mk.inj (Option.some.inj found)
    split
    next same => exact (empty behind (by rw [(Prod.mk.inj same).1])).elim
    next same => exact (zeros _ _ behind (by rw [(Prod.mk.inj same).1])).elim
    · rfl

theorem readFraction_append {chars after rest : List Char} {fraction : Option (List Char)}
    (closes : Closes rest) (found : readFraction chars = some (fraction, after)) :
    readFraction (chars ++ rest) = some (fraction, after ++ rest) := by
  unfold readFraction at found
  split at found
  next point =>
    rcases spanned : spanDigits point with ⟨digits, behind⟩
    rw [spanned] at found
    rw [List.cons_append, readFraction, spanDigits_append closes spanned]
    cases digits with
    | nil => cases found
    | cons digit more =>
      obtain ⟨rfl, rfl⟩ := Prod.mk.inj (Option.some.inj found)
      rfl
  next noPoint =>
    obtain ⟨rfl, rfl⟩ := Prod.mk.inj (Option.some.inj found)
    rw [readFraction]
    intro behind same
    cases chars with
    | nil => exact absurd (closes '.' (by rw [← List.nil_append rest, same]; rfl)) (by decide)
    | cons char more => exact noPoint _ (by rw [(List.cons.inj same).1])

/-- The sign in front of an exponent. -/
def exponentSign : List Char → Bool × List Char
  | '-' :: rest => (true, rest)
  | '+' :: rest => (false, rest)
  | rest => (false, rest)

theorem exponentSign_cons_append (char : Char) (more rest : List Char) :
    exponentSign (char :: more ++ rest) =
      ((exponentSign (char :: more)).1, (exponentSign (char :: more)).2 ++ rest) := by
  by_cases minus : char = '-'
  · rw [minus]
    rfl
  by_cases plus : char = '+'
  · rw [plus]
    rfl
  simp [exponentSign, minus, plus]

/-- The digits of an exponent. -/
def exponentDigits (negative : Bool) (chars : List Char) : Option (Option Int × List Char) :=
  match spanDigits chars with
  | ([], _) => none
  | (digits, after) =>
    let value : Int := digitsValue digits
    some (some (if negative then -value else value), after)

theorem exponentDigits_append {chars after rest : List Char} {negative : Bool}
    {exponent : Option Int} (closes : Closes rest)
    (found : exponentDigits negative chars = some (exponent, after)) :
    exponentDigits negative (chars ++ rest) = some (exponent, after ++ rest) := by
  rcases spanned : spanDigits chars with ⟨digits, behind⟩
  rw [exponentDigits, spanned] at found
  rw [exponentDigits, spanDigits_append closes spanned]
  cases digits with
  | nil => cases found
  | cons digit more =>
    obtain ⟨rfl, rfl⟩ := Prod.mk.inj (Option.some.inj found)
    rfl

theorem readExponent_cons (mark : Char) (chars : List Char) :
    readExponent (mark :: chars) =
      if mark == 'e' || mark == 'E' then
        exponentDigits (exponentSign chars).1 (exponentSign chars).2
      else some (none, mark :: chars) :=
  rfl

theorem readExponent_append {chars after rest : List Char} {exponent : Option Int}
    (closes : Closes rest) (found : readExponent chars = some (exponent, after)) :
    readExponent (chars ++ rest) = some (exponent, after ++ rest) := by
  cases chars with
  | nil =>
    obtain ⟨rfl, rfl⟩ := Prod.mk.inj (Option.some.inj found)
    cases rest with
    | nil => rfl
    | cons char more =>
      have noMark : (char == 'e' || char == 'E') = false := by
        rcases closes char rfl with rfl | rfl | rfl <;> rfl
      rw [List.nil_append, readExponent_cons, noMark]
      rfl
  | cons mark more =>
    rw [readExponent_cons] at found
    rw [List.cons_append, readExponent_cons]
    split at found
    next isMark =>
      rw [if_pos isMark]
      cases more with
      | nil => cases found
      | cons char digits =>
        rw [exponentSign_cons_append]
        exact exponentDigits_append closes found
    next noMark =>
      obtain ⟨rfl, rfl⟩ := Prod.mk.inj (Option.some.inj found)
      rw [if_neg noMark, List.cons_append]

/-- A number without its sign. -/
def scanUnsigned (negative : Bool) (chars : List Char) : Option (NumberText × List Char) := do
  let (whole, chars) ← readWhole chars
  let (fraction, chars) ← readFraction chars
  let (exponent, chars) ← readExponent chars
  some ({ negative, whole, fraction, exponent }, chars)

theorem scanUnsigned_append {chars after rest : List Char} {negative : Bool} {text : NumberText}
    (closes : Closes rest) (found : scanUnsigned negative chars = some (text, after)) :
    scanUnsigned negative (chars ++ rest) = some (text, after ++ rest) := by
  obtain ⟨⟨whole, behindWhole⟩, readsWhole, found⟩ := Option.bind_eq_some_iff.mp found
  obtain ⟨⟨fraction, behindFraction⟩, readsFraction, found⟩ := Option.bind_eq_some_iff.mp found
  obtain ⟨⟨exponent, behindExponent⟩, readsExponent, found⟩ := Option.bind_eq_some_iff.mp found
  obtain ⟨rfl, rfl⟩ := Prod.mk.inj (Option.some.inj found)
  simp only [scanUnsigned, readWhole_append closes readsWhole,
    readFraction_append closes readsFraction, readExponent_append closes readsExponent,
    Option.bind_eq_bind, Option.bind_some]

theorem scanNumber_minus (chars : List Char) :
    scanNumber ('-' :: chars) = scanUnsigned true chars :=
  rfl

theorem scanNumber_unsigned {chars : List Char} (noMinus : chars.head? ≠ some '-') :
    scanNumber chars = scanUnsigned false chars := by
  cases chars with
  | nil => rfl
  | cons char more =>
    have differs : char ≠ '-' := fun minus => noMinus (congrArg some minus)
    simp [scanNumber, scanUnsigned, differs]

theorem scanNumber_append {chars after rest : List Char} {text : NumberText}
    (closes : Closes rest) (found : scanNumber chars = some (text, after)) :
    scanNumber (chars ++ rest) = some (text, after ++ rest) := by
  cases chars with
  | nil => cases found
  | cons char more =>
    rw [List.cons_append]
    by_cases minus : char = '-'
    · rw [minus, scanNumber_minus] at found ⊢
      exact scanUnsigned_append closes found
    · have unsigned : ∀ more : List Char, (char :: more).head? ≠ some '-' :=
        fun _ same => minus (Option.some.inj same)
      rw [scanNumber_unsigned (unsigned _)] at found ⊢
      exact scanUnsigned_append closes found

/-- What follows the text of a number does not change what is read. -/
theorem readNumber_append {chars after rest : List Char} {numeral : Numeral}
    (closes : Closes rest) (found : readNumber chars = some (numeral, after)) :
    readNumber (chars ++ rest) = some (numeral, after ++ rest) := by
  obtain ⟨⟨text, behind⟩, scanned, found⟩ := Option.bind_eq_some_iff.mp found
  obtain ⟨value, reads, found⟩ := Option.bind_eq_some_iff.mp found
  obtain ⟨rfl, rfl⟩ := Prod.mk.inj (Option.some.inj found)
  simp only [readNumber, scanNumber_append closes scanned, reads, Option.bind_eq_bind,
    Option.bind_some]

theorem readWhole_first {char : Char} {more : List Char} {found : List Char × List Char}
    (reads : readWhole (char :: more) = some found) : char.isDigit = true := by
  by_contra noDigit
  have spanned : spanDigits (char :: more) = ([], char :: more) := by
    rw [spanDigits, List.span_eq_takeWhile_dropWhile]
    simp [noDigit]
  rw [readWhole, spanned] at reads
  cases reads

/-- A number begins with a digit or with a sign. -/
theorem readNumber_first {chars : List Char} {found : Numeral × List Char}
    (reads : readNumber chars = some found) :
    ∃ char more, chars = char :: more ∧ (char = '-' ∨ char.isDigit = true) := by
  obtain ⟨⟨text, behind⟩, scanned, -⟩ := Option.bind_eq_some_iff.mp reads
  cases chars with
  | nil => cases scanned
  | cons char more =>
    refine ⟨char, more, rfl, ?_⟩
    by_cases minus : char = '-'
    · exact Or.inl minus
    · have unsigned : (char :: more).head? ≠ some '-' := fun same => minus (Option.some.inj same)
      rw [scanNumber_unsigned unsigned] at scanned
      obtain ⟨whole, readsWhole, -⟩ := Option.bind_eq_some_iff.mp scanned
      exact Or.inr (readWhole_first readsWhole)

/-! ### Counts -/

theorem digitsValue_toDigits (count : Nat) : digitsValue (Nat.toDigits 10 count) = count := by
  have same : digitsValue (Nat.toDigits 10 count) =
      Nat.ofDigitChars 10 (Nat.toDigits 10 count) 0 := by
    simp only [digitsValue, Nat.ofDigitChars, Nat.mul_comm]
  rw [same, Nat.ofDigitChars_ten_toDigits]

theorem head?_toDigits (count : Nat) (positive : count ≠ 0) :
    (Nat.toDigits 10 count).head? ≠ some '0' := by
  induction count using Nat.strongRecOn with
  | ind count inductionHypothesis =>
    by_cases small : count < 10
    · have all : ∀ count < 10, count ≠ 0 → some (Nat.digitChar count) ≠ some '0' := by decide
      rw [Nat.toDigits_of_lt_base small]
      exact all count small positive
    · rw [Nat.toDigits_of_base_le (by decide) (Nat.le_of_not_lt small),
        List.head?_append_of_ne_nil _ Nat.toDigits_ne_nil]
      exact inductionHypothesis (count / 10) (by omega) (by omega)

theorem readWhole_toDigits (count : Nat) :
    readWhole (Nat.toDigits 10 count) = some (Nat.toDigits 10 count, []) := by
  have all : ∀ char ∈ Nat.toDigits 10 count, char.isDigit = true :=
    fun char member => ChunkId.digits_toDigits member
  have spanned : spanDigits (Nat.toDigits 10 count) = (Nat.toDigits 10 count, []) := by
    rw [spanDigits, List.span_eq_takeWhile_dropWhile, List.takeWhile_eq_self_iff.mpr all,
      List.dropWhile_eq_nil_iff.mpr all]
  rw [readWhole, spanned]
  split
  next same => exact absurd (Prod.mk.inj same).1 Nat.toDigits_ne_nil
  next leading =>
    have digits := (Prod.mk.inj leading).1
    have zero : count = 0 := by
      by_contra positive
      exact head?_toDigits count positive (by rw [digits]; rfl)
    rw [zero] at digits
    cases digits
  · rfl

/-- A count that a word holds is read from its digits. -/
theorem readNumber_count {count : Nat} (fits : count < Word.limit) :
    readNumber (toString count).toList = some (.integer count, []) := by
  have digits : (toString count).toList = Nat.toDigits 10 count := Nat.toList_repr
  have scanned : scanNumber (Nat.toDigits 10 count) =
      some (⟨false, Nat.toDigits 10 count, none, none⟩, []) := by
    have noMinus : (Nat.toDigits 10 count).head? ≠ some '-' := fun minus =>
      absurd (ChunkId.digits_toDigits (List.mem_of_head? minus)) (by decide)
    simp [scanNumber_unsigned noMinus, scanUnsigned, readWhole_toDigits, readFraction, readExponent]
  rw [digits]
  simp only [readNumber, scanned, Option.bind_eq_bind, Option.bind_some]
  simp [NumberText.numeral?, NumberText.integer?, digitsValue_toDigits, fits]

/-! ### Values -/

/-- The number that is read from the text of a number. -/
def Numeral.reread (numeral : Numeral) : Numeral :=
  ((readNumber numeral.text.toList).map Prod.fst).getD numeral

mutual

/-- The value with other numbers in it. -/
def mapNumbers (change : Numeral → Numeral) : Json → Json
  | .array items => .array (mapNumbersItems change items)
  | .object members => .object (mapNumbersMembers change members)
  | .null => .null
  | .bool value => .bool value
  | .number value => .number (change value)
  | .string value => .string value

def mapNumbersItems (change : Numeral → Numeral) : List Json → List Json
  | [] => []
  | item :: rest => item.mapNumbers change :: mapNumbersItems change rest

def mapNumbersMembers (change : Numeral → Numeral) : List (String × Json) → List (String × Json)
  | [] => []
  | (name, value) :: rest => (name, value.mapNumbers change) :: mapNumbersMembers change rest

end

/-- What is read from the text of a value. -/
def reread (json : Json) : Json :=
  json.mapNumbers Numeral.reread

mutual

/-- Whether a value can be read whole from its text, when it may nest up to a depth and is read in a
shape. -/
def isLegible : (depth : Nat) → Shape → Json → Bool
  | depth, shape, .array items => depth ≠ 0 && legibleItems (depth - 1) shape items
  | depth, shape, .object members => depth ≠ 0 && legibleMembers (depth - 1) shape members
  | _, _, .null => true
  | _, _, .bool _ => true
  | _, _, .number value => readNumber value.text.toList = some (value.reread, [])
  | _, _, .string _ => true

def legibleItems : (depth : Nat) → Shape → List Json → Bool
  | _, _, [] => true
  | depth, shape, item :: rest =>
    item.isLegible depth shape.head && legibleItems depth shape.tail rest

def legibleMembers : (depth : Nat) → Shape → List (String × Json) → Bool
  | _, _, [] => true
  | depth, shape, (name, value) :: rest =>
    (match shape.member? name with
      | some inner => value.isLegible depth inner
      | none => false) && legibleMembers depth shape rest

end

theorem legibleMembers_cons {depth : Nat} {shape : Shape} {member : String × Json}
    {more : List (String × Json)} :
    legibleMembers depth shape (member :: more) = true ↔
      (∃ inner, shape.member? member.1 = some inner ∧ member.2.isLegible depth inner = true) ∧
        legibleMembers depth shape more = true := by
  rw [legibleMembers, Bool.and_eq_true]
  cases shape.member? member.1 <;> simp

mutual

/-- What can be read at a depth can be read where more depth is left. -/
theorem isLegible_mono {depth deeper : Nat} (more : depth ≤ deeper) (shape : Shape) (json : Json)
    (legible : json.isLegible depth shape = true) : json.isLegible deeper shape = true := by
  cases json with
  | array items =>
    rw [isLegible, Bool.and_eq_true, decide_eq_true_eq] at legible ⊢
    exact ⟨by omega, legibleItems_mono (Nat.sub_le_sub_right more 1) shape items legible.2⟩
  | object members =>
    rw [isLegible, Bool.and_eq_true, decide_eq_true_eq] at legible ⊢
    exact ⟨by omega, legibleMembers_mono (Nat.sub_le_sub_right more 1) shape members legible.2⟩
  | null => rfl
  | bool value => rfl
  | number value =>
    rw [isLegible] at legible ⊢
    exact legible
  | string value => rfl

theorem legibleItems_mono {depth deeper : Nat} (more : depth ≤ deeper) (shape : Shape)
    (items : List Json) (legible : legibleItems depth shape items = true) :
    legibleItems deeper shape items = true := by
  cases items with
  | nil => rfl
  | cons item rest =>
    rw [legibleItems, Bool.and_eq_true] at legible ⊢
    exact ⟨isLegible_mono more _ item legible.1, legibleItems_mono more _ rest legible.2⟩

theorem legibleMembers_mono {depth deeper : Nat} (more : depth ≤ deeper) (shape : Shape)
    (members : List (String × Json)) (legible : legibleMembers depth shape members = true) :
    legibleMembers deeper shape members = true := by
  cases members with
  | nil => rfl
  | cons member rest =>
    obtain ⟨name, value⟩ := member
    rw [legibleMembers_cons] at legible ⊢
    obtain ⟨⟨inner, known, first⟩, others⟩ := legible
    exact ⟨⟨inner, known, isLegible_mono more inner value first⟩,
      legibleMembers_mono more shape rest others⟩

end

/-- Texts with commas between them. -/
def joined : List String → List Char
  | [] => []
  | [part] => part.toList
  | part :: next :: rest => part.toList ++ ',' :: joined (next :: rest)

theorem toList_intercalate (parts : List String) :
    (String.intercalate "," parts).toList = joined parts := by
  rw [String.toList_intercalate]
  fun_induction joined parts with
  | case1 => rfl
  | case2 part => exact List.intercalate_singleton
  | case3 part next rest inductionHypothesis =>
    rw [List.map_cons, List.map_cons, List.intercalate_cons_cons, ← List.map_cons,
      inductionHypothesis]
    exact List.append_assoc ..

theorem toList_enclose (opening closing : Char) (parts : List String) :
    (enclose opening.toString closing.toString parts).toList =
      opening :: (joined parts ++ [closing]) := by
  rw [enclose, String.toList_append, String.toList_append, toList_intercalate]
  simp [Char.toString]

theorem joined_begins {part : String} {char : Char} {more : List Char}
    (begins : part.toList = char :: more) (rest : List String) :
    ∃ behind, joined (part :: rest) = char :: behind := by
  cases rest with
  | nil => exact ⟨more, begins⟩
  | cons next rest => exact ⟨_, by rw [joined, begins, List.cons_append]⟩

theorem skipSpace_cons {char : Char} (noSpace : isSpace char = false) (more : List Char) :
    skipSpace (char :: more) = char :: more := by
  rw [skipSpace, List.dropWhile_cons_of_neg]
  rw [noSpace]
  decide

/-! #### Beginnings -/

theorem ne_of_begins {char other : Char} (begins : char = '-' ∨ char.isDigit = true)
    (noMinus : other ≠ '-') (noDigit : other.isDigit = false) : char ≠ other := by
  rintro rfl
  rcases begins with minus | digit
  · exact noMinus minus
  · rw [noDigit] at digit
    cases digit

/-- The text of a value begins with a character that is no space and does not end an array. -/
theorem compact_first {depth : Nat} {shape : Shape} {json : Json}
    (legible : json.isLegible depth shape = true) :
    ∃ char more, json.compact.toList = char :: more ∧ isSpace char = false ∧ char ≠ ']' := by
  cases json with
  | null => exact ⟨'n', _, rfl, rfl, by decide⟩
  | bool value => cases value <;> exact ⟨_, _, rfl, rfl, by decide⟩
  | number value =>
    obtain ⟨char, more, same, begins⟩ := readNumber_first (of_decide_eq_true legible)
    have differs : ∀ other, other ≠ '-' → other.isDigit = false → (char == other) = false :=
      fun other noMinus noDigit => beq_eq_false_iff_ne.mpr (ne_of_begins begins noMinus noDigit)
    refine ⟨char, more, same, ?_, ne_of_begins begins (by decide) rfl⟩
    simp [isSpace, differs]
  | string value => exact ⟨'"', _, by rw [compact, toList_quoted], rfl, by decide⟩
  | array items => exact ⟨'[', _, toList_enclose '[' ']' _, rfl, by decide⟩
  | object members => exact ⟨'\x7b', _, toList_enclose '\x7b' '\x7d' _, rfl, by decide⟩

theorem readValue_number {chars after : List Char} {numeral : Numeral} (fuel depth : Nat)
    (shape : Shape) (found : readNumber chars = some (numeral, after)) :
    readValue (fuel + 1) depth shape chars = some (.number numeral, after) := by
  obtain ⟨char, more, rfl, begins⟩ := readNumber_first found
  have differs : ∀ other rest, other ≠ '-' → other.isDigit = false → char :: more = other :: rest →
      False :=
    fun other rest noMinus noDigit same =>
      ne_of_begins begins noMinus noDigit (List.cons.inj same).1
  rw [readValue.eq_8 _ _ _ _ (fun _ => differs _ _ (by decide) rfl)
    (fun _ => differs _ _ (by decide) rfl) (fun _ => differs _ _ (by decide) rfl)
    (fun _ => differs _ _ (by decide) rfl) (fun _ => differs _ _ (by decide) rfl)
    (fun _ => differs _ _ (by decide) rfl), found]
  rfl

/-! #### Parts -/

theorem readItems_last {fuel depth : Nat} {shape : Shape} {chars after : List Char} {item : Json}
    (found : readValue fuel depth shape.head chars = some (item, ']' :: after)) :
    readItems (fuel + 1) depth shape chars = some ([item], after) := by
  rw [readItems, found]
  rfl

theorem readItems_more {fuel depth : Nat} {shape : Shape} {chars rest after : List Char}
    {item : Json} {items : List Json}
    (found : readValue fuel depth shape.head chars = some (item, ',' :: rest))
    (noSpace : skipSpace rest = rest)
    (others : readItems fuel depth shape.tail rest = some (items, after)) :
    readItems (fuel + 1) depth shape chars = some (item :: items, after) := by
  rw [readItems, found, Option.bind_eq_bind, Option.bind_some]
  have comma : skipSpace (',' :: rest) = ',' :: rest := skipSpace_cons rfl rest
  simp only [comma, noSpace, others]
  rfl

/-- The text of a member of an object. -/
theorem toList_member (name : String) (value : Json) (rest : List Char) :
    (quoted name ++ ":" ++ value.compact).toList ++ rest =
      '"' :: (name.toList.flatMap escapeChar ++ '"' :: ':' :: (value.compact.toList ++ rest)) := by
  have colon : ":".toList = [':'] := rfl
  simp only [String.toList_append, toList_quoted, colon, List.cons_append, List.append_assoc,
    List.nil_append]

theorem readMembers_last {fuel depth : Nat} {shape inner : Shape} {name : String}
    {chars after : List Char} {value : Json} (taken : shape.member? name = some inner)
    (noSpace : skipSpace chars = chars)
    (found : readValue fuel depth inner chars = some (value, '\x7d' :: after)) :
    readMembers (fuel + 1) depth shape
        ('"' :: (name.toList.flatMap escapeChar ++ '"' :: ':' :: chars)) =
      some ([(name, value)], after) := by
  have colon : skipSpace (':' :: chars) = ':' :: chars := skipSpace_cons rfl chars
  rw [readMembers, readString_escaped]
  simp only [Option.bind_eq_bind, Option.bind_some, colon, noSpace, String.ofList_toList, taken,
    found, Option.map_some]
  rfl

theorem readMembers_more {fuel depth : Nat} {shape inner : Shape} {name : String}
    {chars rest after : List Char} {value : Json} {members : List (String × Json)}
    (taken : shape.member? name = some inner) (noSpace : skipSpace chars = chars)
    (found : readValue fuel depth inner chars = some (value, ',' :: rest))
    (noSpaceBehind : skipSpace rest = rest)
    (others : readMembers fuel depth shape rest = some (members, after)) :
    readMembers (fuel + 1) depth shape
        ('"' :: (name.toList.flatMap escapeChar ++ '"' :: ':' :: chars)) =
      some ((name, value) :: members, after) := by
  have colon : skipSpace (':' :: chars) = ':' :: chars := skipSpace_cons rfl chars
  have comma : skipSpace (',' :: rest) = ',' :: rest := skipSpace_cons rfl rest
  rw [readMembers, readString_escaped]
  simp only [Option.bind_eq_bind, Option.bind_some, colon, noSpace, String.ofList_toList, taken,
    found, Option.map_some, comma, noSpaceBehind, others]
  rfl

theorem readValue_string (fuel depth : Nat) (shape : Shape) (text : String) (rest : List Char) :
    readValue (fuel + 1) depth shape ((quoted text).toList ++ rest) =
      some (.string text, rest) := by
  rw [toList_quoted, List.cons_append, List.append_assoc, List.singleton_append, readValue,
    readString_escaped, Option.map_some]
  exact congrArg (fun text => some (Json.string text, rest)) String.ofList_toList

theorem readValue_array {fuel depth : Nat} {shape : Shape} {char : Char} {more after : List Char}
    {items : List Json} (nests : depth ≠ 0) (noSpace : isSpace char = false) (noEnd : char ≠ ']')
    (found : readItems fuel (depth - 1) shape (char :: more) = some (items, after)) :
    readValue (fuel + 1) depth shape ('[' :: char :: more) = some (.array items, after) := by
  rw [readValue, if_neg nests, skipSpace_cons noSpace]
  split
  next ends => exact absurd (List.cons.inj ends).1 noEnd
  · rw [found]
    rfl

theorem readValue_object {fuel depth : Nat} {shape : Shape} {more after : List Char}
    {members : List (String × Json)} (nests : depth ≠ 0)
    (found : readMembers fuel (depth - 1) shape ('"' :: more) = some (members, after)) :
    readValue (fuel + 1) depth shape ('\x7b' :: '"' :: more) = some (.object members, after) := by
  rw [readValue, if_neg nests, skipSpace_cons rfl]
  split
  next ends => cases ends
  · rw [found]
    rfl

/-! #### Whole values -/

theorem closes_bracket (rest : List Char) : Closes (']' :: rest) := by
  rintro _ ⟨⟩
  exact Or.inr (Or.inl rfl)

theorem closes_brace (rest : List Char) : Closes ('\x7d' :: rest) := by
  rintro _ ⟨⟩
  exact Or.inr (Or.inr rfl)

theorem closes_comma (rest : List Char) : Closes (',' :: rest) := by
  rintro _ ⟨⟩
  exact Or.inl rfl

/-- The texts of values, items and members are read with the given number of steps, if they are
short enough for it. Every step of the reader leaves one step less to the parts. -/
structure Rereads (fuel : Nat) : Prop where
  value : ∀ (json : Json) (depth : Nat) (shape : Shape) (rest : List Char),
    json.isLegible depth shape = true → Closes rest → 2 * json.compact.toList.length ≤ fuel →
      readValue fuel depth shape (json.compact.toList ++ rest) = some (json.reread, rest)
  items : ∀ (item : Json) (more : List Json) (depth : Nat) (shape : Shape) (rest : List Char),
    legibleItems depth shape (item :: more) = true →
      2 * (joined (compactItems (item :: more))).length < fuel →
        readItems fuel depth shape (joined (compactItems (item :: more)) ++ ']' :: rest) =
          some (mapNumbersItems Numeral.reread (item :: more), rest)
  members : ∀ (member : String × Json) (more : List (String × Json)) (depth : Nat) (shape : Shape)
      (rest : List Char), legibleMembers depth shape (member :: more) = true →
    2 * (joined (compactMembers (member :: more))).length < fuel →
      readMembers fuel depth shape (joined (compactMembers (member :: more)) ++ '\x7d' :: rest) =
        some (mapNumbersMembers Numeral.reread (member :: more), rest)

namespace Rereads

variable {fuel depth : Nat} {shape : Shape} {rest : List Char}

theorem step_array (rereads : Rereads fuel) {items : List Json}
    (legible : (Json.array items).isLegible depth shape = true)
    (enough : 2 * (Json.array items).compact.toList.length ≤ fuel + 1) :
    readValue (fuel + 1) depth shape ((Json.array items).compact.toList ++ rest) =
      some ((Json.array items).reread, rest) := by
  have text : (Json.array items).compact.toList = '[' :: (joined (compactItems items) ++ [']']) :=
    toList_enclose '[' ']' _
  rw [isLegible, Bool.and_eq_true, decide_eq_true_eq] at legible
  rw [text] at enough ⊢
  simp only [List.length_cons, List.length_append, List.length_nil] at enough
  rw [List.cons_append, List.append_assoc, List.singleton_append]
  cases items with
  | nil => exact if_neg legible.1
  | cons item more =>
    have found := rereads.items item more (depth - 1) shape rest legible.2 (by omega)
    rw [legibleItems, Bool.and_eq_true] at legible
    obtain ⟨char, others, begins, noSpace, noEnd⟩ := compact_first legible.2.1
    obtain ⟨behind, whole⟩ := joined_begins begins (compactItems more)
    rw [compactItems, whole, List.cons_append] at found ⊢
    exact readValue_array legible.1 noSpace noEnd found

theorem step_object (rereads : Rereads fuel) {members : List (String × Json)}
    (legible : (Json.object members).isLegible depth shape = true)
    (enough : 2 * (Json.object members).compact.toList.length ≤ fuel + 1) :
    readValue (fuel + 1) depth shape ((Json.object members).compact.toList ++ rest) =
      some ((Json.object members).reread, rest) := by
  have text : (Json.object members).compact.toList =
      '\x7b' :: (joined (compactMembers members) ++ ['\x7d']) :=
    toList_enclose '\x7b' '\x7d' _
  rw [isLegible, Bool.and_eq_true, decide_eq_true_eq] at legible
  rw [text] at enough ⊢
  simp only [List.length_cons, List.length_append, List.length_nil] at enough
  rw [List.cons_append, List.append_assoc, List.singleton_append]
  cases members with
  | nil => exact if_neg legible.1
  | cons member more =>
    have found := rereads.members member more (depth - 1) shape rest legible.2 (by omega)
    have begins := toList_member member.1 member.2 []
    rw [List.append_nil] at begins
    obtain ⟨behind, whole⟩ := joined_begins begins (compactMembers more)
    rw [compactMembers, whole, List.cons_append] at found ⊢
    exact readValue_object legible.1 found

theorem step_value (rereads : Rereads fuel) (json : Json)
    (legible : json.isLegible depth shape = true) (closes : Closes rest)
    (enough : 2 * json.compact.toList.length ≤ fuel + 1) :
    readValue (fuel + 1) depth shape (json.compact.toList ++ rest) = some (json.reread, rest) := by
  cases json with
  | null => rfl
  | bool value => cases value <;> rfl
  | number value =>
    have found := readNumber_append closes (of_decide_eq_true legible)
    exact readValue_number fuel depth shape found
  | string value => exact readValue_string fuel depth shape value rest
  | array items => exact rereads.step_array legible enough
  | object members => exact rereads.step_object legible enough

theorem step_items (rereads : Rereads fuel) (item : Json) (more : List Json)
    (legible : legibleItems depth shape (item :: more) = true)
    (enough : 2 * (joined (compactItems (item :: more))).length < fuel + 1) :
    readItems (fuel + 1) depth shape (joined (compactItems (item :: more)) ++ ']' :: rest) =
      some (mapNumbersItems Numeral.reread (item :: more), rest) := by
  rw [legibleItems, Bool.and_eq_true] at legible
  cases more with
  | nil =>
    exact readItems_last (rereads.value item depth _ _ legible.1 (closes_bracket rest)
      (Nat.le_of_lt_succ enough))
  | cons next others =>
    have size : (joined (compactItems (item :: next :: others))).length =
        item.compact.toList.length + (joined (compactItems (next :: others))).length + 1 := by
      simp only [compactItems, joined, List.length_append, List.length_cons]
      omega
    have found := rereads.value item depth _ _ legible.1
      (closes_comma (joined (compactItems (next :: others)) ++ ']' :: rest)) (by omega)
    have foundOthers := rereads.items next others depth _ rest legible.2 (by omega)
    rw [legibleItems, Bool.and_eq_true] at legible
    obtain ⟨char, behindFirst, begins, noSpace, -⟩ := compact_first legible.2.1
    obtain ⟨behind, whole⟩ := joined_begins begins (compactItems others)
    rw [compactItems, compactItems, joined, List.append_assoc, List.cons_append]
    refine readItems_more found ?_ foundOthers
    rw [compactItems, whole, List.cons_append]
    exact skipSpace_cons noSpace _

theorem step_members (rereads : Rereads fuel) (member : String × Json)
    (more : List (String × Json)) (legible : legibleMembers depth shape (member :: more) = true)
    (enough : 2 * (joined (compactMembers (member :: more))).length < fuel + 1) :
    readMembers (fuel + 1) depth shape
        (joined (compactMembers (member :: more)) ++ '\x7d' :: rest) =
      some (mapNumbersMembers Numeral.reread (member :: more), rest) := by
  obtain ⟨name, value⟩ := member
  obtain ⟨⟨inner, taken, valueLegible⟩, moreLegible⟩ := legibleMembers_cons.mp legible
  obtain ⟨char, behindFirst, begins, noSpace, -⟩ := compact_first valueLegible
  have noneSkipped : ∀ after, skipSpace (value.compact.toList ++ after) =
      value.compact.toList ++ after := by
    intro after
    rw [begins, List.cons_append, skipSpace_cons noSpace]
  have length := congrArg List.length (toList_member name value [])
  simp only [List.append_nil, List.length_cons, List.length_append] at length
  cases more with
  | nil =>
    have found := rereads.value value depth inner _ valueLegible (closes_brace rest) (by
      rw [compactMembers, compactMembers, joined] at enough
      omega)
    rw [compactMembers, compactMembers, joined, toList_member]
    exact readMembers_last taken (noneSkipped _) found
  | cons next others =>
    have size : (joined (compactMembers ((name, value) :: next :: others))).length =
        (quoted name ++ ":" ++ value.compact).toList.length +
          (joined (compactMembers (next :: others))).length + 1 := by
      simp only [compactMembers, joined, List.length_append, List.length_cons]
      omega
    have found := rereads.value value depth inner _ valueLegible
      (closes_comma (joined (compactMembers (next :: others)) ++ '\x7d' :: rest)) (by omega)
    have foundOthers := rereads.members next others depth shape rest moreLegible (by omega)
    have nextBegins := toList_member next.1 next.2 []
    rw [List.append_nil] at nextBegins
    obtain ⟨behind, whole⟩ := joined_begins nextBegins (compactMembers others)
    rw [compactMembers, compactMembers, joined, List.append_assoc, toList_member, List.cons_append]
    refine readMembers_more taken (noneSkipped _) found ?_ foundOthers
    rw [compactMembers, whole, List.cons_append]
    exact skipSpace_cons rfl _

theorem step (rereads : Rereads fuel) : Rereads (fuel + 1) where
  value json _ _ _ legible closes enough := rereads.step_value json legible closes enough
  items item more _ _ _ legible enough := rereads.step_items item more legible enough
  members member more _ _ _ legible enough := rereads.step_members member more legible enough

end Rereads

theorem rereads (fuel : Nat) : Rereads fuel := by
  induction fuel with
  | zero =>
    refine ⟨?_, ?_, ?_⟩
    · intro json depth shape rest legible closes enough
      obtain ⟨char, more, begins, -, -⟩ := compact_first legible
      rw [begins, List.length_cons] at enough
      omega
    · intro item more depth shape rest legible enough
      omega
    · intro member more depth shape rest legible enough
      omega
  | succ fuel inductionHypothesis => exact inductionHypothesis.step

/-- The text of a value says the value, with what its numbers are read as. -/
theorem parseIn?_compact {shape : Shape} {json : Json}
    (legible : json.isLegible nestingLimit shape = true) :
    parseIn? shape json.compact = some json.reread := by
  obtain ⟨char, more, begins, noSpace, -⟩ := compact_first legible
  have noneSkipped : skipSpace json.compact.toList = json.compact.toList := by
    rw [begins, skipSpace_cons noSpace]
  have found := (rereads (2 * json.compact.toList.length + 2)).value json nestingLimit shape []
    legible (by rintro _ ⟨⟩) (by omega)
  rw [List.append_nil] at found
  simp only [parseIn?, noneSkipped, found]
  rfl

end Chunking.Json
