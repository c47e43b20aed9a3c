/-
Names of languages in a configuration, and the two ways of reading them. One way
lists the languages that are enabled: it trims a name, lowers it and knows short
forms. The other way asks, for the language of a file, whether it is configured, and
compares names as they stand, up to the case of ASCII letters. Lowering follows all of
Unicode, but it gives a spelling of a language only for ASCII letters: the one
character from beyond ASCII that is lowered to a letter alone is the Kelvin sign, and
no spelling has a `k`. So what the first way reads can be told in terms of the second,
and the two agree just if every language that is spelled in some way is also listed by
its plain name.
-/

import Chunking.Workspace.Config
import Mathlib.Data.List.TakeWhile

namespace Chunking

namespace Text

/-! ### Lowering -/

/-- The small letters that nothing but ASCII letters is lowered to. -/
def isPlain (char : Char) : Bool :=
  char.isLower && char != 'k'

theorem bounds_of_isPlain {char : Char} (plain : isPlain char = true) :
    0x61 ≤ char.toNat ∧ char.toNat ≤ 0x7A := by
  have small : (decide ('a'.val ≤ char.val) && decide (char.val ≤ 'z'.val)) = true :=
    (Bool.and_eq_true_iff.mp plain).1
  rw [Bool.and_eq_true, decide_eq_true_eq, decide_eq_true_eq] at small
  exact small

/-- A character whose small form is plain is an ASCII letter. -/
theorem bounds_of_toLower {char : Char} (plain : isPlain char.toLower = true) :
    0x41 ≤ char.toNat ∧ char.toNat ≤ 0x7A := by
  have lowered := bounds_of_isPlain plain
  unfold Char.toLower at lowered
  split at lowered
  next capital =>
    have least : 0x41 ≤ char.toNat := capital.1
    have most : char.toNat ≤ 0x5A := capital.2
    omega
  next => omega

theorem toLower_of_isPlain {char : Char} (plain : isPlain char = true) : char.toLower = char := by
  have least := (bounds_of_isPlain plain).1
  unfold Char.toLower
  refine dif_neg fun capital => ?_
  have most : char.toNat ≤ 0x5A := capital.2
  omega

/-- Where characters from beyond ASCII are lowered to: beyond ASCII, but for the Kelvin sign. -/
theorem loweringRuns_beyond : ∀ found ∈ loweringRuns, found = ⟨⟨0x212A, 0x212A, 1⟩, -8383⟩ ∨
    0x80 ≤ found.run.first + found.distance ∧ (found.run.last + found.distance < 0xD800 ∨
      0xDFFF < found.run.first + found.distance ∧ found.run.last + found.distance < 0x110000) := by
  decide +kernel

theorem not_isPlain_lowered {char : Char} {found : LoweringRun} (member : found ∈ loweringRuns)
    (covered : found.run.covers char.toNat = true) :
    isPlain (Char.ofNat (char.toNat + found.distance).toNat) = false := by
  simp only [Run.covers, Bool.and_eq_true, decide_eq_true_eq] at covered
  obtain ⟨⟨first, last⟩, -⟩ := covered
  rcases loweringRuns_beyond found member with rfl | ⟨beyond, valid⟩
  · have kelvin : char.toNat = 0x212A := Nat.le_antisymm last first
    rw [kelvin]
    rfl
  · rw [Bool.eq_false_iff]
    intro plain
    have isChar : (char.toNat + found.distance).toNat.isValidChar := by
      unfold Nat.isValidChar
      omega
    rw [Char.ofNat, dif_pos isChar] at plain
    have most : (char.toNat + found.distance).toNat ≤ 0x7A := (bounds_of_isPlain plain).2
    omega

theorem ascii_of_lowerChar {char : Char}
    (plain : ∀ lowered ∈ lowerChar char, isPlain lowered = true) : char.toNat < 0x80 := by
  by_contra wide
  rw [lowerChar, if_neg wide] at plain
  split at plain
  · have dot := plain (Char.ofNat 0x307) (by simp)
    exact absurd dot (by decide)
  · split at plain
    next found isFound =>
      have covered := List.find?_some isFound
      have lowered := plain _ (List.mem_singleton_self _)
      rw [not_isPlain_lowered (List.mem_of_find?_eq_some isFound) covered] at lowered
      cases lowered
    next =>
      have small := (bounds_of_isPlain (plain char (List.mem_singleton_self _))).2
      omega

theorem lowerFrom_cons_of_ascii {char : Char} (ascii : char.toNat < 0x80)
    (before rest : List Char) :
    lowerFrom before (char :: rest) = char.toLower :: lowerFrom (char :: before) rest := by
  have noSigma : (char == 'Σ') = false := by
    refine beq_eq_false_iff_ne.mpr ?_
    rintro rfl
    exact absurd ascii (by decide)
  rw [lowerFrom, noSigma, lowerChar, if_pos ascii]
  rfl

theorem ascii_of_lowerFrom {before rest : List Char} {char : Char}
    (plain : ∀ lowered ∈ lowerFrom before (char :: rest), isPlain lowered = true) :
    char.toNat < 0x80 := by
  rw [lowerFrom] at plain
  have first := fun lowered member => plain lowered (List.mem_append_left _ member)
  by_cases sigma : (char == 'Σ') = true
  · -- Both forms of the small sigma are beyond ASCII.
    rw [if_pos sigma] at first
    split at first
    · exact absurd (first _ (List.mem_singleton_self _)) (by decide)
    · exact absurd (first _ (List.mem_singleton_self _)) (by decide)
  · rw [if_neg sigma] at first
    exact ascii_of_lowerChar first

theorem lowerFrom_eq_iff {word : List Char} (plain : ∀ letter ∈ word, isPlain letter = true)
    (before chars : List Char) : lowerFrom before chars = word ↔ chars.map Char.toLower = word := by
  induction chars generalizing before word with
  | nil => rfl
  | cons char rest inductionHypothesis =>
    -- Either side makes the first character an ASCII one, and then both lower it alike.
    have step (ascii : char.toNat < 0x80) {letters : List Char}
        (split : word = char.toLower :: letters) :
        lowerFrom before (char :: rest) = word ↔ (char :: rest).map Char.toLower = word := by
      rw [split, List.forall_mem_cons] at plain
      rw [split, lowerFrom_cons_of_ascii ascii, List.map_cons, List.cons.injEq, List.cons.injEq,
        inductionHypothesis plain.2]
    constructor
    · rintro rfl
      have ascii := ascii_of_lowerFrom plain
      exact (step ascii (lowerFrom_cons_of_ascii ascii before rest)).mp rfl
    · rintro rfl
      have letter := bounds_of_toLower (plain _ List.mem_cons_self)
      exact (step (by omega) List.map_cons).mpr rfl

/-! ### Trimming -/

theorem dropEndWhile_append {drop : Char → Bool} {front back : List Char}
    (dropped : ∀ char ∈ back, drop char = true) (kept : ∀ char ∈ front, drop char = false) :
    dropEndWhile drop (front ++ back) = front := by
  have stays : front.reverse.dropWhile drop = front.reverse :=
    List.dropWhile_eq_self_iff.mpr fun nonempty => by
      rw [kept _ (List.mem_reverse.mp (List.getElem_mem nonempty))]
      exact Bool.false_ne_true
  rw [dropEndWhile, List.reverse_append, List.dropWhile_append_of_pos (by simpa using dropped),
    stays, List.reverse_reverse]

/-- Blank characters around a word without any are trimmed, and nothing else is. -/
theorem trim_append {front word back : String} (blankFront : isBlankText front = true)
    (blankBack : isBlankText back = true) (solid : ∀ char ∈ word.toList, isBlank char = false) :
    trim (front ++ word ++ back) = word := by
  rw [isBlankText, List.all_eq_true] at blankFront blankBack
  have started : (word.toList ++ back.toList).dropWhile isBlank =
      if word.toList = [] then [] else word.toList ++ back.toList := by
    cases letters : word.toList with
    | nil => simpa using blankBack
    | cons letter more =>
      rw [letters] at solid
      rw [List.cons_append, List.dropWhile_cons_of_neg (by simp [solid letter List.mem_cons_self])]
      rfl
  rw [trim, String.toList_append, String.toList_append, List.append_assoc,
    List.dropWhile_append_of_pos blankFront, started]
  split
  next empty => rw [← String.toList_inj, empty]; rfl
  next => rw [dropEndWhile_append blankBack solid, String.ofList_toList]

/-- Trimming takes blank characters off at both ends. -/
theorem exists_blank_around (text : String) : ∃ front back,
    text = front ++ trim text ++ back ∧ isBlankText front = true ∧ isBlankText back = true := by
  let inner := text.toList.dropWhile isBlank
  refine ⟨String.ofList (text.toList.takeWhile isBlank),
    String.ofList (inner.reverse.takeWhile isBlank).reverse, ?_, ?_, ?_⟩
  · have cut : (inner.reverse.dropWhile isBlank).reverse ++
        (inner.reverse.takeWhile isBlank).reverse = inner := by
      rw [← List.reverse_append, List.takeWhile_append_dropWhile, List.reverse_reverse]
    rw [← String.toList_inj, String.toList_append, String.toList_append, trim, String.toList_ofList,
      String.toList_ofList, String.toList_ofList, dropEndWhile, List.append_assoc, cut,
      List.takeWhile_append_dropWhile]
  · rw [isBlankText, String.toList_ofList, List.all_takeWhile]
  · rw [isBlankText, String.toList_ofList, List.all_reverse, List.all_takeWhile]

theorem blankRuns_apart : ∀ run ∈ blankRuns, run.last ≤ 0x20 ∨ 0x85 ≤ run.first := by
  decide

theorem isBlank_of_toLower {char : Char} (plain : isPlain char.toLower = true) :
    isBlank char = false := by
  have letter := bounds_of_toLower plain
  rw [isBlank, inRuns, List.any_eq_false]
  intro run member covered
  simp only [Run.covers, Bool.and_eq_true, decide_eq_true_eq] at covered
  have apart := blankRuns_apart run member
  omega

end Text

/-! ### Spellings -/

open Text

namespace Config

theorem sameName_iff {text word : String} (plain : ∀ letter ∈ word.toList, isPlain letter = true) :
    sameName text word = true ↔ text.toList.map Char.toLower = word.toList := by
  have own : word.toList.map Char.toLower = word.toList :=
    (List.map_congr_left fun letter member => toLower_of_isPlain (plain letter member)).trans
      (List.map_id _)
  rw [sameName, own, beq_iff_eq]

/-- Lowering a text gives a plain word just if it is that word up to the case of ASCII letters. -/
theorem toLowercase_eq_iff {text word : String}
    (plain : ∀ letter ∈ word.toList, isPlain letter = true) :
    toLowercase text = word ↔ sameName text word = true := by
  rw [sameName_iff plain, ← lowerFrom_eq_iff plain [], toLowercase, ← String.toList_inj,
    String.toList_ofList]

end Config

namespace Language

/-- The name of a language and the short forms that stand for it. -/
def spellings : Language → List String
  | .python => ["python", "py"]
  | .rust => ["rust", "rs"]
  | .javaScript => ["javascript", "js", "jsx"]
  | .typeScript => ["typescript", "ts"]
  | .tsx => ["tsx"]
  | .go => ["go", "golang"]

theorem name_mem_spellings (language : Language) : language.name ∈ language.spellings := by
  cases language <;> exact List.mem_cons_self

theorem isPlain_of_mem_spellings {language : Language} {spelling : String}
    (member : spelling ∈ language.spellings) :
    ∀ letter ∈ spelling.toList, isPlain letter = true := by
  have all : ∀ language : Language, language.spellings.all (·.toList.all isPlain) = true := by
    intro language
    cases language <;> decide
  exact List.all_eq_true.mp (List.all_eq_true.mp (all language) spelling member)

theorem ofName?_eq_some {text : String} {language : Language} :
    ofName? text = some language ↔ folded text ∈ language.spellings := by
  unfold ofName?
  split <;> cases language <;> simp_all [spellings]

/-- A text that stands for a language: one of its spellings, in letters of either case and with any
blank characters around it. -/
def SpelledBy (language : Language) (text : String) : Prop :=
  ∃ front word back, text = front ++ word ++ back ∧ isBlankText front = true ∧
    isBlankText back = true ∧ ∃ spelling ∈ language.spellings, Config.sameName word spelling = true

theorem ofName?_iff_spelledBy {text : String} {language : Language} :
    ofName? text = some language ↔ language.SpelledBy text := by
  rw [ofName?_eq_some]
  constructor
  · intro spelled
    obtain ⟨front, back, whole, blankFront, blankBack⟩ := exists_blank_around text
    exact ⟨front, trim text, back, whole, blankFront, blankBack, folded text, spelled,
      (Config.toLowercase_eq_iff (isPlain_of_mem_spellings spelled)).mp rfl⟩
  · rintro ⟨front, word, back, rfl, blankFront, blankBack, spelling, member, same⟩
    have plain := isPlain_of_mem_spellings member
    have solid : ∀ char ∈ word.toList, isBlank char = false := by
      intro char inWord
      refine isBlank_of_toLower (plain _ ?_)
      rw [← (Config.sameName_iff plain).mp same]
      exact List.mem_map_of_mem inWord
    rw [folded, trim_append blankFront blankBack solid, (Config.toLowercase_eq_iff plain).mpr same]
    exact member

theorem spelledBy_of_sameName {language : Language} {text : String}
    (named : Config.sameName text language.name = true) : language.SpelledBy text :=
  ⟨"", text, "", by rw [String.empty_append, String.append_empty], rfl, rfl, language.name,
    language.name_mem_spellings, named⟩

theorem exists_path (language : Language) : ∃ path, ofPath? path = some language := by
  cases language
  · exact ⟨"a.py", by decide⟩
  · exact ⟨"a.rs", by decide⟩
  · exact ⟨"a.js", by decide⟩
  · exact ⟨"a.ts", by decide⟩
  · exact ⟨"a.tsx", by decide⟩
  · exact ⟨"a.go", by decide⟩

end Language

/-! ### The two readings -/

namespace Config

variable {config : Config} {language : Language} {path : String}

theorem mem_enabledLanguages : language ∈ config.enabledLanguages ↔
    ∃ name ∈ config.languages, language.SpelledBy name := by
  have listed : language ∈ Language.all := by cases language <;> decide
  simp only [enabledLanguages, List.mem_filter, listed, true_and, List.any_eq_true, beq_iff_eq,
    Language.ofName?_iff_spelledBy]

theorem languageFor?_eq_some : config.languageFor? path = some language ↔
    Language.ofPath? path = some language ∧
      ∃ name ∈ config.languages, sameName name language.name = true := by
  rw [languageFor?, Option.filter_eq_some_iff, List.any_eq_true]

theorem enabled_of_languageFor? (found : config.languageFor? path = some language) :
    Language.ofPath? path = some language ∧ language ∈ config.enabledLanguages := by
  obtain ⟨here, name, listed, named⟩ := languageFor?_eq_some.mp found
  exact ⟨here, mem_enabledLanguages.mpr ⟨name, listed, Language.spelledBy_of_sameName named⟩⟩

/-- How the two readings of the configured names compare. -/
structure Readings (config : Config) : Prop where
  /-- Enabled are the languages that some name spells, each once and in the order of languages. -/
  enabled : ∀ language, language ∈ config.enabledLanguages ↔
    ∃ name ∈ config.languages, language.SpelledBy name
  ordered : config.enabledLanguages.Pairwise (·.rank < ·.rank)
  /-- A file is taken up in the language of its path, and only if that is enabled. -/
  sound : ∀ path language, config.languageFor? path = some language →
    Language.ofPath? path = some language ∧ language ∈ config.enabledLanguages
  /-- A file is passed over just if no name is the plain one of its language, enabled or not. -/
  missed : ∀ path language, Language.ofPath? path = some language →
    (config.languageFor? path = none ↔
      ∀ name ∈ config.languages, sameName name language.name = false)
  agree : (∀ path language, config.languageFor? path = some language ↔
      Language.ofPath? path = some language ∧ language ∈ config.enabledLanguages) ↔
    ∀ language : Language, (∃ name ∈ config.languages, language.SpelledBy name) →
      ∃ name ∈ config.languages, sameName name language.name = true

/-- The two readings agree just if every language that is spelled in some way is also listed by its
plain name. -/
theorem readings_compared (config : Config) : config.Readings where
  enabled _ := mem_enabledLanguages
  ordered := List.Pairwise.filter _ (by decide)
  sound _ _ := enabled_of_languageFor?
  missed path language here := by
    rw [languageFor?, here, Option.filter_eq_none_iff]
    simp
  agree := by
    constructor
    · intro agreed language spelled
      obtain ⟨path, here⟩ := language.exists_path
      have enabled := mem_enabledLanguages.mpr spelled
      exact (languageFor?_eq_some.mp ((agreed path language).mpr ⟨here, enabled⟩)).2
    · intro plain path language
      refine ⟨enabled_of_languageFor?, fun ⟨here, enabled⟩ => ?_⟩
      exact languageFor?_eq_some.mpr ⟨here, plain language (mem_enabledLanguages.mp enabled)⟩

/-- A short form enables a language whose files are then passed over. -/
example : let config : Config := { languages := ["py"] }
    config.enabledLanguages = [.python] ∧ config.languageFor? "a.py" = none := by
  decide +kernel

end Config

end Chunking
