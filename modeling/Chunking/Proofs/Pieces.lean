/-
What a processor finds in pieces of a text. Constructs and top-level nodes behave
alike here: both have lines and move with them. A processor finds certain items
in a text if it finds exactly these and has nothing to pass over; in an empty text
there is nothing to find, whether the processor is asked or not. What is found in
a slice that no node sticks out of is what lies in it, and slices can be put
together from left to right where the text may be cut.
-/

import Chunking.Proofs.Processors
import Chunking.Scope.Cuts

namespace Chunking

/-! ### Items -/

/-- Something that a processor finds in a text. -/
inductive Item where
  | ofDraft (draft : Draft)
  | ofNode (node : Span)

namespace Item

def span : Item → Span
  | .ofDraft draft => draft.span
  | .ofNode node => node

/-- The item moved down by a number of lines. -/
def offset : Item → Nat → Item
  | .ofDraft draft, lines => .ofDraft (draft.offset lines)
  | .ofNode node, lines => .ofNode (node.offset lines)

theorem span_offset (item : Item) (lines : Nat) :
    (item.offset lines).span = item.span.offset lines := by
  cases item <;> rfl

theorem offset_zero (item : Item) : item.offset 0 = item := by
  cases item <;> rfl

theorem offset_injective {first second : Item} {lines : Nat}
    (same : first.offset lines = second.offset lines) : first = second := by
  have spans {first second : Span} (same : first.offset lines = second.offset lines) :
      first = second := by
    cases first
    cases second
    simpa [Span.offset] using same
  cases first with
  | ofDraft first =>
    cases second with
    | ofDraft second =>
      have drafts := Item.ofDraft.inj same
      have lines := spans (congrArg Draft.span drafts)
      cases first
      cases second
      simp only [Draft.offset, Draft.mk.injEq] at drafts
      simp only at lines
      simp only [ofDraft.injEq, Draft.mk.injEq]
      exact ⟨drafts.1, drafts.2.1, lines, drafts.2.2.2⟩
    | ofNode => cases same
  | ofNode first =>
    cases second with
    | ofDraft => cases same
    | ofNode second => rw [spans (Item.ofNode.inj same)]

/-- An item with lines from a place on was moved there from the beginning of a text. -/
theorem exists_offset {item : Item} {lines : Nat} (starts : lines < item.span.startLine)
    (proper : item.span.startLine ≤ item.span.endLine) :
    ∃ inner : Item, inner.offset lines = item ∧ 1 ≤ inner.span.startLine := by
  have spans (span : Span) (starts : lines < span.startLine)
      (proper : span.startLine ≤ span.endLine) :
      (Span.mk (span.startLine - lines) (span.endLine - lines)).offset lines = span := by
    rw [Span.offset, Nat.sub_add_cancel (by omega), Nat.sub_add_cancel (by omega)]
  cases item with
  | ofDraft draft =>
    refine ⟨.ofDraft { draft with span := ⟨draft.span.startLine - lines, draft.span.endLine - lines⟩ },
      ?_, Nat.sub_pos_of_lt starts⟩
    rw [offset, Draft.offset]
    simp only
    rw [spans draft.span starts proper]
  | ofNode node =>
    refine ⟨.ofNode ⟨node.startLine - lines, node.endLine - lines⟩, ?_, Nat.sub_pos_of_lt starts⟩
    rw [offset, spans node starts proper]

end Item

namespace Extraction

/-- The item is one of those found. -/
def Has (extraction : Extraction) : Item → Prop
  | .ofDraft draft => draft ∈ extraction.drafts
  | .ofNode node => node ∈ extraction.outline

theorem has_draft_offset {extraction : Extraction} {lines : Nat} {draft : Draft} :
    (∃ inner, extraction.Has inner ∧ inner.offset lines = .ofDraft draft) ↔
      ∃ inner ∈ extraction.drafts, inner.offset lines = draft := by
  constructor
  · rintro ⟨inner, member, same⟩
    cases inner with
    | ofDraft inner => exact ⟨inner, member, Item.ofDraft.inj same⟩
    | ofNode => cases same
  · rintro ⟨inner, member, rfl⟩
    exact ⟨.ofDraft inner, member, rfl⟩

theorem has_node_offset {extraction : Extraction} {lines : Nat} {node : Span} :
    (∃ inner, extraction.Has inner ∧ inner.offset lines = .ofNode node) ↔
      ∃ inner ∈ extraction.outline, inner.offset lines = node := by
  constructor
  · rintro ⟨inner, member, same⟩
    cases inner with
    | ofDraft => cases same
    | ofNode inner => exact ⟨inner, member, Item.ofNode.inj same⟩
  · rintro ⟨inner, member, rfl⟩
    exact ⟨.ofNode inner, member, rfl⟩

theorem has_append {left right : Extraction} {lines : Nat} {item : Item} :
    (left.append lines right).Has item ↔
      left.Has item ∨ ∃ inner, right.Has inner ∧ inner.offset lines = item := by
  cases item with
  | ofDraft draft =>
    rw [has_draft_offset]
    simp only [Has, append, List.mem_append, List.mem_map]
  | ofNode node =>
    rw [has_node_offset]
    simp only [Has, append, List.mem_append, List.mem_map]

end Extraction

/-- What fits into a slice fits into the whole text at the place of the slice. -/
theorem Span.fits_offset {text : String} {range : LineRange} {span : Span}
    (inside : range.stop ≤ (LineIndex.ofText text).size)
    (fits : span.Fits (LineIndex.ofText ((LineIndex.ofText text).slice range.start range.stop)).size) :
    (span.offset range.start).Fits (LineIndex.ofText text).size ∧
      range.start < (span.offset range.start).startLine ∧
      (span.offset range.start).endLine ≤ range.stop := by
  rw [LineIndex.size_slice text range.start inside] at fits
  simp only [Span.Fits, Span.offset] at fits ⊢
  omega

/-! ### What is found -/

namespace Processor

/-- A processor finds exactly the given items in a text and has nothing to pass over. -/
def Finds (processor : Processor) (text : String) (items : Item → Prop) : Prop :=
  (text = "" ∧ ∀ item, ¬ items item) ∨
    ∃ extraction, processor.Clean text extraction ∧ ∀ item, extraction.Has item ↔ items item

variable {processor : Processor}

theorem Compositional.fits (compositional : processor.Compositional) {text : String}
    {coverage : Coverage} {extraction : Extraction}
    (processed : processor.process text coverage = .ok extraction) {item : Item}
    (has : extraction.Has item) : item.span.Fits (LineIndex.ofText text).size := by
  cases item with
  | ofDraft draft => exact (compositional.tidy processed).1 draft has
  | ofNode node => exact compositional.nodesFit processed node has

namespace Finds

variable {text first second : String} {items others : Item → Prop}

theorem congr (finds : processor.Finds text items) (same : ∀ item, items item ↔ others item) :
    processor.Finds text others := by
  rcases finds with ⟨empty, none⟩ | ⟨extraction, clean, has⟩
  · exact Or.inl ⟨empty, fun item other => none item ((same item).mpr other)⟩
  · exact Or.inr ⟨extraction, clean, fun item => (has item).trans (same item)⟩

theorem of_empty (none : ∀ item, ¬ items item) : processor.Finds "" items :=
  Or.inl ⟨rfl, none⟩

variable (compositional : processor.Compositional)

include compositional

theorem fits (finds : processor.Finds text items) {item : Item} (has : items item) :
    item.span.Fits (LineIndex.ofText text).size := by
  rcases finds with ⟨_, none⟩ | ⟨extraction, clean, same⟩
  · exact absurd has (none item)
  · exact compositional.fits clean.1 ((same item).mpr has)

/-- There is nothing to find in an empty text. -/
theorem not_empty (finds : processor.Finds "" items) (item : Item) : ¬ items item := by
  intro has
  obtain ⟨positive, proper, inside⟩ := finds.fits compositional has
  have size : (LineIndex.ofText "").size = 0 := rfl
  omega

/-- Two texts are put together. One of them may be empty. -/
theorem glue (left : processor.Finds first items) (right : processor.Finds second others)
    (cut : first ≠ "" → second ≠ "" → Text.EndsLine first ∧ processor.Opens first second) :
    processor.Finds (first ++ second) fun item =>
      items item ∨ ∃ inner, others inner ∧ inner.offset (LineIndex.ofText first).size = item := by
  by_cases noFirst : first = ""
  · subst noFirst
    rw [String.empty_append]
    refine right.congr fun item => ?_
    have size : (LineIndex.ofText "").size = 0 := rfl
    simp only [size, Item.offset_zero, exists_eq_right, left.not_empty compositional item, false_or]
  · by_cases noSecond : second = ""
    · subst noSecond
      rw [String.append_empty]
      refine left.congr fun item => ?_
      simp only [right.not_empty compositional, false_and, exists_false, or_false]
    · rcases left with ⟨empty, _⟩ | ⟨leftFound, leftClean, leftHas⟩
      · exact absurd empty noFirst
      rcases right with ⟨empty, _⟩ | ⟨rightFound, rightClean, rightHas⟩
      · exact absurd empty noSecond
      obtain ⟨closed, opens⟩ := cut noFirst noSecond
      refine Or.inr ⟨_, compositional.glue leftClean rightClean closed opens, ?_⟩
      intro item
      rw [Extraction.has_append, leftHas]
      simp only [rightHas]

/-- A text is cut where no node runs across. -/
theorem split (finds : processor.Finds (first ++ second) items) (closed : Text.EndsLine first)
    (uncut : ∀ node, items (.ofNode node) → ¬ (node.startLine ≤ (LineIndex.ofText first).size ∧
      (LineIndex.ofText first).size < node.endLine)) :
    processor.Finds first (fun item =>
      items item ∧ item.span.endLine ≤ (LineIndex.ofText first).size) ∧
    processor.Finds second (fun item =>
      1 ≤ item.span.startLine ∧ items (item.offset (LineIndex.ofText first).size)) := by
  rcases finds with ⟨empty, _⟩ | ⟨whole, clean, has⟩
  · have nothing : first = "" := (String.append_eq_empty_iff.mp empty).1
    rw [nothing] at closed
    cases closed
  · obtain ⟨left, right, leftClean, rightClean, rfl⟩ :=
      compositional.split clean closed fun node member => uncut node ((has (.ofNode node)).mp member)
    refine ⟨Or.inr ⟨left, leftClean, fun item => ?_⟩, Or.inr ⟨right, rightClean, fun item => ?_⟩⟩
    · simp only [← has, Extraction.has_append]
      constructor
      · intro member
        exact ⟨Or.inl member, (compositional.fits leftClean.1 member).2.2⟩
      · rintro ⟨member | ⟨inner, member, rfl⟩, inside⟩
        · exact member
        · have fits := compositional.fits rightClean.1 member
          rw [Item.span_offset] at inside
          simp only [Span.Fits, Span.offset] at fits inside
          omega
    · simp only [← has, Extraction.has_append]
      constructor
      · intro member
        exact ⟨(compositional.fits rightClean.1 member).1, Or.inr ⟨item, member, rfl⟩⟩
      · rintro ⟨positive, member | ⟨inner, member, same⟩⟩
        · have fits := compositional.fits leftClean.1 member
          rw [Item.span_offset] at fits
          simp only [Span.Fits, Span.offset] at fits
          omega
        · exact Item.offset_injective same ▸ member

/-- What is found in a slice that no node sticks out of is what lies in it. -/
theorem slice (finds : processor.Finds text items) {start stop : Nat} (ordered : start ≤ stop)
    (inside : stop ≤ (LineIndex.ofText text).size)
    (uncutStart : ∀ node, items (.ofNode node) → ¬ (node.startLine ≤ start ∧ start < node.endLine))
    (uncutStop : ∀ node, items (.ofNode node) → ¬ (node.startLine ≤ stop ∧ stop < node.endLine)) :
    processor.Finds ((LineIndex.ofText text).slice start stop) fun item =>
      1 ≤ item.span.startLine ∧ item.span.endLine ≤ stop - start ∧ items (item.offset start) := by
  by_cases nothing : start = stop
  · rw [nothing, LineIndex.slice_self]
    refine of_empty fun item => ?_
    rintro ⟨positive, short, has⟩
    have proper := (finds.fits compositional has).2.1
    rw [Item.span_offset] at proper
    simp only [Span.offset] at proper
    omega
  have front : processor.Finds ((LineIndex.ofText text).slice 0 stop) fun item =>
      items item ∧ item.span.endLine ≤ stop := by
    by_cases whole : stop = (LineIndex.ofText text).size
    · rw [whole, LineIndex.slice_all]
      refine finds.congr fun item => ⟨fun has => ⟨has, ?_⟩, And.left⟩
      exact (finds.fits compositional has).2.2
    · have closed := LineIndex.endsLine_slice text (show 0 < stop by omega) (by omega)
      have parts := LineIndex.slice_append (LineIndex.ofText text) (Nat.zero_le stop) inside
      rw [LineIndex.slice_all] at parts
      have size := LineIndex.size_slice text 0 inside
      rw [← parts] at finds
      have cut := (finds.split compositional closed (by rw [size]; exact uncutStop)).1
      rw [size] at cut
      exact cut
  by_cases fromStart : start = 0
  · subst fromStart
    refine front.congr fun item => ?_
    rw [Item.offset_zero, Nat.sub_zero]
    constructor
    · rintro ⟨has, short⟩
      exact ⟨(finds.fits compositional has).1, short, has⟩
    · rintro ⟨_, short, has⟩
      exact ⟨has, short⟩
  · have closed := LineIndex.endsLine_slice text (show 0 < start by omega) (by omega)
    have parts := LineIndex.slice_append (LineIndex.ofText text) (Nat.zero_le start) ordered
    have size := LineIndex.size_slice text 0 (Nat.le_trans ordered inside)
    rw [Nat.sub_zero] at size
    rw [← parts] at front
    have cut := (front.split compositional closed
      (by rw [size]; exact fun node both => uncutStart node both.1)).2
    rw [size] at cut
    refine cut.congr fun item => ?_
    rw [Item.span_offset]
    simp only [Span.offset]
    constructor
    · rintro ⟨positive, has, short⟩
      exact ⟨positive, by omega, has⟩
    · rintro ⟨positive, short, has⟩
      exact ⟨positive, has, by omega⟩

end Finds

/-! ### Where slices may be put together -/

/-- Where a text opens cleanly, every slice may follow what comes before it. -/
theorem opens_slice {cuts : Cuts} {text : String}
    (lines : cuts.lines = (LineIndex.ofText text).lines)
    (boundary : cuts.isBoundary = processor.isBoundary) {place : Nat}
    (clean : cuts.opensCleanly place = true) (stop : Nat) :
    processor.Opens ((LineIndex.ofText text).slice 0 place)
      ((LineIndex.ofText text).slice place stop) := by
  intro line found
  rw [Text.firstLine?, LineIndex.lines_slice, ← lines] at found
  rw [Text.lastLine?, LineIndex.lines_slice, ← lines, List.drop_zero, Nat.sub_zero, ← boundary]
  have foundBehind : (cuts.lines.drop place).find? (!Text.isBlankText ·) = some line :=
    List.IsPrefix.find?_eq_some (List.take_prefix _ _) found
  rw [Cuts.opensCleanly, foundBehind] at clean
  exact clean

end Processor

end Chunking
