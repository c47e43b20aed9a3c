/-
What patterns mean. A pattern can be read in one way only, and it covers a text
exactly if the text can be cut into pieces that its tokens can stand for, one after
another. It selects a path if it covers the whole of it, and one without a slash
also if it covers the last segment. A token other than two stars stands for as many
slashes as it is written with, so without two stars a pattern only covers paths of
its own depth.
-/

import Chunking.Proofs.Bytes
import Chunking.Proofs.FileTrees
import Chunking.Proofs.Identifiers

namespace Chunking

namespace Pattern

open Text

/-! ### Reading -/

/-- How a pattern is read from left to right: two stars belong together, with a slash that follows
directly, and what is neither a star nor a question mark stands for itself. -/
inductive Reads : List UInt8 → List Token → Prop where
  | nil : Reads [] []
  | anythingSlash {rest : List UInt8} {tokens : List Token} (further : Reads rest tokens) :
      Reads ('*'.toUInt8 :: '*'.toUInt8 :: '/'.toUInt8 :: rest) (.anything :: tokens)
  | anything {rest : List UInt8} {tokens : List Token} (noSlash : rest.head? ≠ some '/'.toUInt8)
      (further : Reads rest tokens) :
      Reads ('*'.toUInt8 :: '*'.toUInt8 :: rest) (.anything :: tokens)
  | withinSegment {rest : List UInt8} {tokens : List Token} (noStar : rest.head? ≠ some '*'.toUInt8)
      (further : Reads rest tokens) : Reads ('*'.toUInt8 :: rest) (.withinSegment :: tokens)
  | oneByte {rest : List UInt8} {tokens : List Token} (further : Reads rest tokens) :
      Reads ('?'.toUInt8 :: rest) (.oneByte :: tokens)
  | literal {byte : UInt8} {rest : List UInt8} {tokens : List Token} (noStar : byte ≠ '*'.toUInt8)
      (noMark : byte ≠ '?'.toUInt8) (further : Reads rest tokens) :
      Reads (byte :: rest) (.literal byte :: tokens)

theorem reads_tokens (pattern : List UInt8) : Reads pattern (tokens pattern) := by
  fun_induction tokens pattern with
  | case1 rest inductionHypothesis => exact .anythingSlash inductionHypothesis
  | case2 rest other inductionHypothesis =>
    refine .anything (fun slash => ?_) inductionHypothesis
    obtain ⟨more, rfl⟩ := List.head?_eq_some_iff.mp slash
    exact other more rfl
  | case3 rest _ other inductionHypothesis =>
    refine .withinSegment (fun star => ?_) inductionHypothesis
    obtain ⟨more, rfl⟩ := List.head?_eq_some_iff.mp star
    exact other more rfl
  | case4 rest inductionHypothesis => exact .oneByte inductionHypothesis
  | case5 byte rest _ _ noStar noMark inductionHypothesis =>
    exact .literal noStar noMark inductionHypothesis
  | case6 => exact .nil

theorem Reads.eq_tokens {pattern : List UInt8} {read : List Token} (reads : Reads pattern read) :
    tokens pattern = read := by
  induction reads with
  | nil => rfl
  | anythingSlash _ inductionHypothesis => exact congrArg (Token.anything :: ·) inductionHypothesis
  | anything noSlash _ inductionHypothesis =>
    rw [← inductionHypothesis]
    refine tokens.eq_2 _ fun more slash => noSlash ?_
    rw [slash]
    rfl
  | withinSegment noStar _ inductionHypothesis =>
    rw [← inductionHypothesis]
    refine tokens.eq_3 _ (fun more stars => noStar ?_) fun more star => noStar ?_
    · rw [stars]
      rfl
    · rw [star]
      rfl
  | oneByte _ inductionHypothesis => exact congrArg (Token.oneByte :: ·) inductionHypothesis
  | literal noStar noMark _ inductionHypothesis =>
    rw [← inductionHypothesis]
    exact tokens.eq_5 _ _ (fun _ star _ => noStar star) (fun _ star _ => noStar star) noStar noMark

/-! ### Pieces -/

/-- The pieces of a text that a token can stand for. -/
def Token.Takes : Token → List UInt8 → Prop
  | .anything, _ => True
  | .withinSegment, piece => slash ∉ piece
  | .oneByte, piece => ∃ byte ≠ slash, piece = [byte]
  | .literal byte, piece => piece = [byte]

/-- A text can be cut into pieces, one for each token. -/
def Cut (tokens : List Token) (text : List UInt8) : Prop :=
  ∃ pieces, List.Forall₂ Token.Takes tokens pieces ∧ pieces.flatten = text

theorem cut_nil {text : List UInt8} : Cut [] text ↔ text = [] := by
  constructor
  · rintro ⟨pieces, takes, rfl⟩
    cases takes
    rfl
  · rintro rfl
    exact ⟨[], .nil, rfl⟩

theorem cut_cons {token : Token} {tokens : List Token} {text : List UInt8} :
    Cut (token :: tokens) text ↔
      ∃ piece rest, token.Takes piece ∧ Cut tokens rest ∧ text = piece ++ rest := by
  constructor
  · rintro ⟨pieces, takes, rfl⟩
    cases takes with
    | cons first others => exact ⟨_, _, first, ⟨_, others, rfl⟩, List.flatten_cons⟩
  · rintro ⟨piece, rest, first, ⟨pieces, others, rfl⟩, rfl⟩
    exact ⟨piece :: pieces, .cons first others, List.flatten_cons⟩

theorem mem_suffixes {bytes rest : List UInt8} :
    rest ∈ suffixes bytes ↔ ∃ piece, bytes = piece ++ rest := by
  induction bytes with
  | nil => simp [suffixes, eq_comm]
  | cons byte more inductionHypothesis =>
    rw [suffixes, List.mem_cons, inductionHypothesis]
    constructor
    · rintro (rfl | ⟨piece, rfl⟩)
      · exact ⟨[], rfl⟩
      · exact ⟨byte :: piece, rfl⟩
    · rintro ⟨piece, split⟩
      cases piece with
      | nil => exact Or.inl split.symm
      | cons first piece => exact Or.inr ⟨piece, (List.cons.inj split).2⟩

theorem mem_segmentSuffixes {bytes rest : List UInt8} :
    rest ∈ segmentSuffixes bytes ↔ ∃ piece, slash ∉ piece ∧ bytes = piece ++ rest := by
  induction bytes with
  | nil => simp [segmentSuffixes, eq_comm]
  | cons byte more inductionHypothesis =>
    rw [segmentSuffixes, List.mem_cons]
    constructor
    · rintro (rfl | later)
      · exact ⟨[], List.not_mem_nil, rfl⟩
      · split at later
        · cases later
        next noSlash =>
          obtain ⟨piece, inside, rfl⟩ := inductionHypothesis.mp later
          exact ⟨byte :: piece, by simpa [eq_comm, noSlash] using inside, rfl⟩
    · rintro ⟨piece, inside, split⟩
      cases piece with
      | nil => exact Or.inl split.symm
      | cons first piece =>
        obtain ⟨rfl, rfl⟩ := List.cons.inj split
        rw [List.mem_cons, not_or] at inside
        rw [if_neg (Ne.symm inside.1)]
        exact Or.inr (inductionHypothesis.mpr ⟨piece, inside.2, rfl⟩)

theorem covers_iff {tokens : List Token} {text : List UInt8} :
    covers tokens text = true ↔ Cut tokens text := by
  induction tokens generalizing text with
  | nil => rw [covers, List.isEmpty_iff, cut_nil]
  | cons token rest inductionHypothesis =>
    rw [cut_cons]
    cases token with
    | anything =>
      simp only [covers, List.any_eq_true, mem_suffixes, inductionHypothesis, Token.Takes, true_and]
      constructor
      · rintro ⟨tail, ⟨piece, split⟩, cut⟩
        exact ⟨piece, tail, cut, split⟩
      · rintro ⟨piece, tail, cut, split⟩
        exact ⟨tail, ⟨piece, split⟩, cut⟩
    | withinSegment =>
      simp only [covers, List.any_eq_true, mem_segmentSuffixes, inductionHypothesis, Token.Takes]
      constructor
      · rintro ⟨tail, ⟨piece, inside, split⟩, cut⟩
        exact ⟨piece, tail, inside, cut, split⟩
      · rintro ⟨piece, tail, inside, cut, split⟩
        exact ⟨tail, ⟨piece, inside, split⟩, cut⟩
    | oneByte =>
      cases text with
      | nil => simp [covers, Token.Takes]
      | cons byte after => simp [covers, Token.Takes, inductionHypothesis, and_comm, and_assoc]
    | literal expected =>
      cases text with
      | nil => simp [covers, Token.Takes]
      | cons byte after => simp [covers, Token.Takes, inductionHypothesis, and_comm, and_assoc]

theorem wildcard_iff {pattern text : String} :
    wildcard pattern text = true ↔ Cut (tokens (bytesOf pattern)) (bytesOf text) :=
  covers_iff

/-! ### Segments -/

/-- What stands behind the last slash of a path, or the whole path if it has none. -/
def IsLastSegment (path segment : String) : Prop :=
  '/' ∉ segment.toList ∧ (segment = path ∨ ∃ directory, path = directory ++ "/" ++ segment)

theorem toList_below (directory segment : String) :
    (directory ++ "/" ++ segment).toList = directory.toList ++ '/' :: segment.toList := by
  rw [String.toList_append, String.toList_append, List.append_assoc]
  rfl

theorem isLastSegment_lastSegment (path : String) : IsLastSegment path (Path.lastSegment path) := by
  have alone {chars : List Char} (none : '/' ∉ chars) : splitWhere (· == '/') chars = [chars] := by
    refine splitWhere_whole fun char member => beq_eq_false_iff_ne.mpr ?_
    rintro rfl
    exact none member
  by_cases found : '/' ∈ path.toList
  · obtain ⟨front, back, whole, behind⟩ := ChunkId.exists_last_mark found
    have last : Path.lastSegment path = String.ofList back := by
      rw [Path.lastSegment, splitAt, whole, splitWhere_append rfl, alone behind, List.map_append,
        List.map_singleton, List.getLastD_concat]
    rw [last]
    refine ⟨by rwa [String.toList_ofList], Or.inr ⟨String.ofList front, ?_⟩⟩
    refine String.toList_inj.mp ?_
    rw [toList_below, String.toList_ofList, String.toList_ofList, whole]
  · have last : Path.lastSegment path = path := by
      rw [Path.lastSegment, splitAt, alone found, List.map_singleton, String.ofList_toList]
      rfl
    rw [last]
    exact ⟨found, Or.inl rfl⟩

theorem IsLastSegment.unique {path first second : String} (one : IsLastSegment path first)
    (other : IsLastSegment path second) : first = second := by
  obtain ⟨noneFirst, whole | ⟨directory, below⟩⟩ := one <;>
    obtain ⟨noneSecond, whole' | ⟨directory', below'⟩⟩ := other
  · exact whole.trans whole'.symm
  · rw [whole, below', toList_below] at noneFirst
    simp at noneFirst
  · rw [whole', below, toList_below] at noneSecond
    simp at noneSecond
  · have same := congrArg List.reverse (congrArg String.toList (below.symm.trans below'))
    rw [toList_below, toList_below, List.reverse_append, List.reverse_append, List.reverse_cons,
      List.reverse_cons, List.append_assoc, List.append_assoc] at same
    have parts :=
      ChunkId.append_cons_inj (by simpa using noneFirst) (by simpa using noneSecond) same
    exact String.toList_inj.mp (List.reverse_injective parts.1)

theorem selects_iff {pattern path : String} : selects pattern path = true ↔
    Cut (tokens (bytesOf pattern)) (bytesOf path) ∨ '/' ∉ pattern.toList ∧
      ∃ segment, IsLastSegment path segment ∧
        Cut (tokens (bytesOf pattern)) (bytesOf segment) := by
  have last : (∃ segment, IsLastSegment path segment ∧
      Cut (tokens (bytesOf pattern)) (bytesOf segment)) ↔
        Cut (tokens (bytesOf pattern)) (bytesOf (Path.lastSegment path)) := by
    constructor
    · rintro ⟨segment, isLast, cut⟩
      rwa [(isLastSegment_lastSegment path).unique isLast]
    · exact fun cut => ⟨_, isLastSegment_lastSegment path, cut⟩
  rw [last, selects, Bool.or_eq_true, Bool.and_eq_true, wildcard_iff, wildcard_iff]
  simp [containsChar]

/-! ### Counting slashes -/

theorem Cut.count_slash {tokens : List Token} {text : List UInt8} (cut : Cut tokens text)
    (bounded : Token.anything ∉ tokens) :
    text.count slash = tokens.count (.literal slash) := by
  induction tokens generalizing text with
  | nil => rw [cut_nil.mp cut, List.count_nil, List.count_nil]
  | cons token rest inductionHypothesis =>
    obtain ⟨piece, tail, takes, further, rfl⟩ := cut_cons.mp cut
    rw [List.mem_cons, not_or] at bounded
    rw [List.count_append, inductionHypothesis further bounded.2, List.count_cons, Nat.add_comm]
    congr 1
    cases token with
    | anything => exact absurd rfl bounded.1
    | withinSegment => exact List.count_eq_zero.mpr takes
    | oneByte =>
      obtain ⟨byte, noSlash, rfl⟩ := takes
      exact List.count_eq_zero.mpr (by simpa using noSlash.symm)
    | literal byte =>
      rw [show piece = [byte] from takes, List.count_singleton]
      simp

theorem Reads.count_slash {pattern : List UInt8} {tokens : List Token}
    (reads : Reads pattern tokens) (bounded : Token.anything ∉ tokens) :
    pattern.count slash = tokens.count (.literal slash) := by
  induction reads with
  | nil => rfl
  | anythingSlash | anything => exact absurd List.mem_cons_self bounded
  | withinSegment _ _ inductionHypothesis | oneByte _ inductionHypothesis =>
    rw [List.mem_cons, not_or] at bounded
    rw [List.count_cons_of_ne (by decide), List.count_cons_of_ne (by decide),
      inductionHypothesis bounded.2]
  | literal _ _ _ inductionHypothesis =>
    rw [List.mem_cons, not_or] at bounded
    rw [List.count_cons, List.count_cons, inductionHypothesis bounded.2]
    simp

theorem Reads.two_stars {pattern : List UInt8} {tokens : List Token} (reads : Reads pattern tokens)
    (unbounded : Token.anything ∈ tokens) : ['*'.toUInt8, '*'.toUInt8] <:+: pattern := by
  induction reads with
  | nil => cases unbounded
  | anythingSlash | anything => exact ⟨[], _, rfl⟩
  | withinSegment _ _ inductionHypothesis | oneByte _ inductionHypothesis
  | literal _ _ _ inductionHypothesis =>
    refine (inductionHypothesis ?_).trans (List.suffix_cons _ _).isInfix
    simpa using unbounded

theorem two_stars_of_bytes {chars : List Char}
    (stars : ['*'.toUInt8, '*'.toUInt8] <:+: bytes chars) : ['*', '*'] <:+: chars := by
  have star : '*'.val ≤ 127 := by decide
  obtain ⟨front, back, whole⟩ := stars
  rw [List.append_assoc] at whole
  obtain ⟨before, after, rfl, -, second⟩ := split_at_mark star whole.symm
  obtain ⟨rest, rfl⟩ := exists_cons_of_bytes star (by rw [second]; rfl)
  exact ⟨before, rest, by simp⟩

/-- Without two stars in a row, a pattern with slashes covers only what has as many. -/
theorem count_slash_of_selects {pattern path : String} (slashed : '/' ∈ pattern.toList)
    (bounded : ¬ ['*', '*'] <:+: pattern.toList) (selected : selects pattern path = true) :
    path.toList.count '/' = pattern.toList.count '/' := by
  have reads := reads_tokens (bytesOf pattern)
  have noAnything : Token.anything ∉ tokens (bytesOf pattern) := fun member =>
    bounded (two_stars_of_bytes (bytesOf_eq pattern ▸ reads.two_stars member))
  rcases selects_iff.mp selected with cut | ⟨unslashed, _⟩
  · have counted := (cut.count_slash noAnything).trans (reads.count_slash noAnything).symm
    rw [bytesOf_eq, bytesOf_eq] at counted
    have ascii : '/'.val ≤ 127 := by decide
    exact (count_bytes ascii _).symm.trans (counted.trans (count_bytes ascii _))
  · exact absurd slashed unslashed

/-- What a pattern means: it has one reading, it covers the texts that can be cut into pieces for
the tokens read, and it selects the paths that it covers, as a whole or, if it has no slash, in
their last segment. If it has slashes but no two stars in a row, these paths have as many
slashes. -/
theorem selects_iff_cut (pattern : String) : ∃ read,
    Reads (bytesOf pattern) read ∧ (∀ other, Reads (bytesOf pattern) other → other = read) ∧
    (∀ text, wildcard pattern text = true ↔ Cut read (bytesOf text)) ∧
    (∀ path, selects pattern path = true ↔ Cut read (bytesOf path) ∨ '/' ∉ pattern.toList ∧
      ∃ segment, IsLastSegment path segment ∧ Cut read (bytesOf segment)) ∧
    ('/' ∈ pattern.toList → ¬ ['*', '*'] <:+: pattern.toList → ∀ path,
      selects pattern path = true → path.toList.count '/' = pattern.toList.count '/') :=
  ⟨tokens (bytesOf pattern), reads_tokens _, fun _ reads => reads.eq_tokens.symm,
    fun _ => wildcard_iff, fun _ => selects_iff, fun slashed bounded _ =>
      count_slash_of_selects slashed bounded⟩

end Pattern

end Chunking
