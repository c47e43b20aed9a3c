/-
The check of a version against a text, told without the index of lines. Lines are
counted by their line feeds, and the text that a span covers is what remains of the
whole when the right number of lines is taken off in front and behind, each cut made
where a line ends. The check itself looks at neighbours, collects ids and stops at
the first fault; what it decides is a rule about every two places of the lists.
-/

import Chunking.Proofs.Validity

namespace Chunking

namespace Text

/-! ### Counting lines -/

/-- The number of lines: one for each line feed, and one for what follows the last of them. -/
def lineTotal (text : String) : Nat :=
  text.toList.count '\n' + if text.toList.getLast?.all (· = '\n') then 0 else 1

theorem length_cutLines_eq (chars : List Char) : (cutLines chars).length =
    chars.count '\n' + if chars.getLast?.all (· = '\n') then 0 else 1 := by
  induction chars with
  | nil => rfl
  | cons char rest inductionHypothesis =>
    by_cases single : rest = []
    · by_cases feed : char = '\n' <;> simp [single, cutLines, feed]
    · rw [List.getLast?_cons_of_ne_nil single, List.count_cons, cutLines]
      by_cases feed : char = '\n'
      · have counted : (char == '\n') = true := beq_iff_eq.mpr feed
        rw [if_pos feed, List.length_cons, inductionHypothesis, if_pos counted]
        omega
      · -- The character belongs to the first line of the rest.
        rw [if_neg feed, if_neg (by simpa using feed), Nat.add_zero, ← inductionHypothesis]
        cases cut : cutLines rest with
        | nil => exact absurd (cutLines_eq_nil.mp cut) single
        | cons line lines => rfl

theorem length_rawLines (text : String) : (rawLines text).length = lineTotal text := by
  rw [rawLines, List.length_map, length_cutLines_eq, lineTotal]

/-- Nothing, or a text whose last line is closed: a text that may be continued on a new line. -/
def AtLineStart (text : String) : Prop :=
  text = "" ∨ EndsLine text

theorem AtLineStart.rawLines_append {first : String} (atStart : AtLineStart first)
    (second : String) : rawLines (first ++ second) = rawLines first ++ rawLines second := by
  rcases atStart with rfl | closed
  · rw [String.empty_append, rawLines_eq_nil.mpr rfl, List.nil_append]
  · exact Text.rawLines_append closed second

end Text

/-! ### The text of a span -/

/-- The lines that a span names in a text, with all their terminators. -/
structure Span.Covers (span : Span) (text covered : String) : Prop where
  split : ∃ before behind, text = before ++ (covered ++ behind) ∧
    Text.AtLineStart before ∧ (behind = "" ∨ Text.EndsLine covered) ∧
    Text.lineTotal before = span.startLine - 1
  count : Text.lineTotal covered = span.endLine + 1 - span.startLine

namespace LineIndex

variable {text : String} {span : Span}

theorem size_ofText (text : String) : (ofText text).size = Text.lineTotal text :=
  Text.length_rawLines text

/-- A span inside of a text covers the slice between its lines. -/
theorem covers_slice (fits : span.Fits (ofText text).size) :
    span.Covers text ((ofText text).slice (span.startLine - 1) span.endLine) := by
  obtain ⟨first, ordered, last⟩ := fits
  refine ⟨⟨(ofText text).slice 0 (span.startLine - 1),
    (ofText text).slice span.endLine (ofText text).size, ?_, ?_, ?_, ?_⟩, ?_⟩
  · rw [slice_append _ (by omega) last, slice_append _ (by omega) (by omega), slice_all]
  · rcases Nat.eq_zero_or_pos (span.startLine - 1) with none | some
    · exact Or.inl ((slice_eq_empty text (by omega)).mpr (by omega))
    · exact Or.inr (endsLine_slice text some (by omega))
  · rcases Nat.eq_or_lt_of_le last with whole | more
    · exact Or.inl ((slice_eq_empty text (Nat.le_refl _)).mpr (by omega))
    · exact Or.inr (endsLine_slice text (by omega) more)
  · rw [← size_ofText, size_slice text 0 (by omega), Nat.sub_zero]
  · rw [← size_ofText, size_slice text _ last]
    omega

/-- What a span covers is the slice between its lines, and nothing else is. -/
theorem slice_of_covers {covered : String} (first : 1 ≤ span.startLine)
    (covers : span.Covers text covered) :
    (ofText text).slice (span.startLine - 1) span.endLine = covered := by
  obtain ⟨⟨before, behind, rfl, atStart, closed, skipped⟩, count⟩ := covers
  rw [← Text.length_rawLines] at skipped count
  have inner : Text.rawLines (covered ++ behind) =
      Text.rawLines covered ++ Text.rawLines behind := by
    rcases closed with rfl | closed
    · rw [String.append_empty, Text.rawLines_eq_nil.mpr rfl, List.append_nil]
    · exact Text.rawLines_append closed behind
  have rows : (ofText (before ++ (covered ++ behind))).rows =
      Text.rawLines before ++ (Text.rawLines covered ++ Text.rawLines behind) := by
    rw [ofText, atStart.rawLines_append, inner]
  have taken : span.endLine - (span.startLine - 1) = (Text.rawLines covered).length := by omega
  rw [slice, rows, ← skipped, List.drop_left, skipped, taken, List.take_left, Text.join_rawLines]

/-- The digest of a span inside of a text is that of what it covers, without the last terminator. -/
theorem spanDigest?_eq_some (fits : span.Fits (ofText text).size) {digest : String} :
    (ofText text).spanDigest? span.startLine span.endLine = some digest ↔
      ∃ covered, span.Covers text covered ∧ digest = Digest.ofText (Text.stripEnding covered) := by
  obtain ⟨first, ordered, last⟩ := fits
  have inside : ¬(span.startLine = 0 ∨ span.endLine < span.startLine ∨
      (ofText text).size < span.endLine) := by omega
  rw [spanDigest?, spanText?, if_neg inside, Option.map_some, Option.some.injEq]
  constructor
  · rintro rfl
    exact ⟨_, covers_slice ⟨first, ordered, last⟩, rfl⟩
  · rintro ⟨covered, covers, rfl⟩
    rw [slice_of_covers first covers]

end LineIndex

/-! ### Every two places -/

theorem pairwise_iff_places {α : Type} {relation : α → α → Prop} {items : List α} :
    items.Pairwise relation ↔ ∀ (earlier later : Nat) (first second : α), earlier < later →
      items[earlier]? = some first → items[later]? = some second → relation first second := by
  rw [List.pairwise_iff_getElem]
  constructor
  · intro related earlier later first second before isFirst isSecond
    obtain ⟨earlierInside, rfl⟩ := List.getElem?_eq_some_iff.mp isFirst
    obtain ⟨laterInside, rfl⟩ := List.getElem?_eq_some_iff.mp isSecond
    exact related earlier later earlierInside laterInside before
  · intro related earlier later earlierInside laterInside before
    exact related earlier later _ _ before (List.getElem?_eq_getElem earlierInside)
      (List.getElem?_eq_getElem laterInside)

namespace Version

/-- The rules of a version of a text, each told of single places and of every two of them. -/
structure KeepsRules (version : Version) (text : String) : Prop where
  chunksInside : ∀ chunk ∈ version.chunks, 1 ≤ chunk.span.startLine ∧
    chunk.span.startLine ≤ chunk.span.endLine ∧ chunk.span.endLine ≤ version.lineCount
  chunksInOrder : ∀ (earlier later : Nat) (first second : Chunk), earlier < later →
    version.chunks[earlier]? = some first → version.chunks[later]? = some second →
    first.span.endLine < second.span.startLine
  idsDistinct : ∀ (earlier later : Nat) (first second : Chunk), earlier < later →
    version.chunks[earlier]? = some first → version.chunks[later]? = some second →
    first.id ≠ second.id
  nodesInside : ∀ node ∈ version.outline, 1 ≤ node.startLine ∧
    node.startLine ≤ node.endLine ∧ node.endLine ≤ version.lineCount
  nodesInOrder : ∀ (earlier later : Nat) (first second : Span), earlier < later →
    version.outline[earlier]? = some first → version.outline[later]? = some second →
    first.startLine ≤ second.startLine
  lineCount : version.lineCount = Text.lineTotal text
  digests : ∀ chunk ∈ version.chunks, ∃ covered, chunk.span.Covers text covered ∧
    chunk.contentHash = Digest.ofText (Text.stripEnding covered)

/-- The check decides the rules. -/
theorem validate_iff_keepsRules (version : Version) (text : String) :
    version.validate (some text) = .ok () ↔ version.KeepsRules text := by
  rw [validate_eq_ok]
  constructor
  · intro valid
    have inside : ∀ chunk ∈ version.chunks, chunk.span.Fits (LineIndex.ofText text).size := by
      rw [valid.lineCount]
      exact valid.fits
    exact ⟨valid.fits, pairwise_iff_places.mp valid.row,
      pairwise_iff_places.mp (List.pairwise_map.mp valid.distinct), valid.nodesFit,
      pairwise_iff_places.mp valid.nodesOrdered,
      valid.lineCount.symm.trans (LineIndex.size_ofText text), fun chunk member =>
        (LineIndex.spanDigest?_eq_some (inside chunk member)).mp (valid.digests chunk member)⟩
  · intro rules
    have size : (LineIndex.ofText text).size = version.lineCount :=
      (LineIndex.size_ofText text).trans rules.lineCount.symm
    have inside : ∀ chunk ∈ version.chunks, chunk.span.Fits (LineIndex.ofText text).size := by
      rw [size]
      exact rules.chunksInside
    exact ⟨rules.chunksInside, pairwise_iff_places.mpr rules.chunksInOrder,
      List.pairwise_map.mpr (pairwise_iff_places.mpr rules.idsDistinct), rules.nodesInside,
      pairwise_iff_places.mpr rules.nodesInOrder, size, fun chunk member =>
        (LineIndex.spanDigest?_eq_some (inside chunk member)).mpr (rules.digests chunk member)⟩

end Version

end Chunking
