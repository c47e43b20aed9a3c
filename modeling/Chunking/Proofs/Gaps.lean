/-
What lies between windows. Every change is inside of a window together with the
lines next to it, so a stretch of lines outside of all windows keeps its distance
from the changes: it comes as a whole from lines of the old text, and the line
before it does too. An item of the old text that lies there moves with its lines,
and nothing else of the old text gets into the stretch.
-/

import Chunking.Proofs.Pieces
import Chunking.Proofs.Resolution

namespace Chunking

/-! ### Stretches from the old text -/

/-- A stretch of new lines comes from the old lines from `line` on, and the lines around it do,
too. -/
structure Echo (changes : List LineChange) (old new : List String) (range : LineRange) (line : Nat) :
    Prop where
  kept : ∀ count < range.stop - range.start,
    KeptLine 0 0 changes old new (line + count) (range.start + count)
  apart : ∀ change ∈ changes, change.new.stop < range.start ∨ range.stop < change.new.start
  /-- What stands before the stretch in one text stands before it in the other. -/
  before : (range.start = 0 ∧ line = 0) ∨
    (0 < range.start ∧ 0 < line ∧ KeptLine 0 0 changes old new (line - 1) (range.start - 1))

namespace Changes

theorem deltaAt_of_lt {changes : List LineChange} {line : Nat}
    (behind : ∀ change ∈ changes, line < change.old.stop) : deltaAt changes line = 0 := by
  cases changes with
  | nil => rfl
  | cons change rest => exact deltaAt_cons_of_lt (behind change List.mem_cons_self)

end Changes

section stretches

variable {changes : List LineChange} {old new : List String} {range : LineRange} {line : Nat}
  (script : EditScript 0 0 changes old new)

include script

/-- A stretch that keeps its distance from all changes comes from the old text. -/
theorem EditScript.echo (oldSmall : old.length < Word.signedLimit)
    (newSmall : new.length < Word.signedLimit) (nonempty : range.start < range.stop)
    (inside : range.stop ≤ new.length)
    (apart : ∀ change ∈ changes, change.new.stop < range.start ∨ range.stop < change.new.start) :
    ∃ line, Echo changes old new range line := by
  by_cases first : range.start = 0
  · obtain ⟨line, kept⟩ := script.comes oldSmall newSmall nonempty inside
      fun change member => (apart change member).imp Nat.le_of_lt Nat.le_of_lt
    refine ⟨line, kept, apart, Or.inl ⟨first, ?_⟩⟩
    have start := kept 0 (by omega)
    have moved := start.moved
    rw [Changes.deltaAt_of_lt fun change member => ?_] at moved
    · omega
    · have bounds := script.old_bounds member
      have side := start.side change member
      have far := apart change member
      have newBounds := script.new_bounds member
      omega
  · obtain ⟨line, kept⟩ := script.comes oldSmall newSmall
      (show (LineRange.mk (range.start - 1) range.stop).start < range.stop by dsimp only; omega) inside
      fun change member => (apart change member).imp (by dsimp only; omega) Nat.le_of_lt
    refine ⟨line + 1, fun count bound => ?_, apart, Or.inr ⟨by omega, by omega, ?_⟩⟩
    · have next := kept (count + 1) (by dsimp only; omega)
      rw [show line + 1 + count = line + (count + 1) by omega,
        show range.start + count = range.start - 1 + (count + 1) by omega]
      exact next
    · exact kept 0 (by dsimp only; omega)

namespace Echo

variable (echo : Echo changes old new range line)

include echo

omit script in
theorem stop_le (nonempty : range.start < range.stop) :
    line + (range.stop - range.start) ≤ old.length := by
  have last := (echo.kept (range.stop - range.start - 1) (by omega)).oldStop
  omega

/-- A stretch at the end of the new text comes from the end of the old one. -/
theorem stop_eq (oldSmall : old.length < Word.signedLimit) (newSmall : new.length < Word.signedLimit)
    (nonempty : range.start < range.stop) (last : range.stop = new.length) :
    line + (range.stop - range.start) = old.length := by
  have final := echo.kept (range.stop - range.start - 1) (by omega)
  have oldStop := final.oldStop
  by_cases more : line + (range.stop - range.start) < old.length
  · obtain ⟨place, next⟩ := script.kept_of_old oldSmall newSmall (Nat.zero_le _)
      (show line + (range.stop - range.start) < 0 + old.length by omega) fun change member => by
        have newBounds := script.new_bounds member
        have oldBounds := script.old_bounds member
        have side := final.side change member
        have far := echo.apart change member
        omega
    have ordered := final.place_lt script next (by omega)
    have newStop := next.newStop
    omega
  · omega

/-- Lines of the stretch have not been touched. -/
theorem isTouched_eq_false {span : Span} (positive : 1 ≤ span.startLine)
    (proper : span.startLine ≤ span.endLine) (short : span.endLine ≤ range.stop - range.start) :
    Resolution.isTouched changes (span.offset line) = false := by
  have first := echo.kept (span.startLine - 1) (by omega)
  have last := echo.kept (span.endLine - 1) (by omega)
  simp only [Resolution.isTouched, List.any_eq_false, Bool.not_eq_true]
  intro change member
  have newBounds := script.new_bounds member
  have oldBounds := script.old_bounds member
  have firstSide := first.side change member
  have lastSide := last.side change member
  have far := echo.apart change member
  rw [LineChange.touches_eq_false oldBounds.2.1, Span.offset, Span.toRange]
  dsimp only
  omega

omit script in
theorem carried {span : Span} (positive : 1 ≤ span.startLine)
    (short : span.endLine ≤ range.stop - range.start) :
    Carried changes old new (span.offset line) (range.start + (span.startLine - 1)) := by
  intro count bound
  simp only [Span.size, Span.offset] at bound ⊢
  have kept := echo.kept (span.startLine - 1 + count) (by omega)
  rw [show span.startLine + line - 1 + count = line + (span.startLine - 1 + count) by omega,
    Nat.add_assoc]
  exact kept

omit script in
/-- Lines of the stretch go where they should. -/
theorem shiftSpan_eq (oldSmall : old.length < Word.signedLimit)
    (newSmall : new.length < Word.signedLimit) {span : Span} (positive : 1 ≤ span.startLine)
    (proper : span.startLine ≤ span.endLine) (short : span.endLine ≤ range.stop - range.start) :
    Changes.shiftSpan changes (span.offset line) = span.offset range.start := by
  have oldStop := (echo.kept (span.endLine - 1) (by omega)).oldStop
  have fits : (span.offset line).Fits old.length := by
    simp only [Span.Fits, Span.offset]
    omega
  rw [(echo.carried positive short).shiftSpan_eq fits oldSmall newSmall]
  simp only [Span.offset, Span.size, Span.mk.injEq]
  omega

end Echo

end stretches

/-! ### Items that stay -/

namespace Item

/-- The item moved along with its lines. -/
def shift (changes : List LineChange) : Item → Item
  | .ofDraft draft => .ofDraft { draft with span := Changes.shiftSpan changes draft.span }
  | .ofNode node => .ofNode (Changes.shiftSpan changes node)

theorem span_shift (changes : List LineChange) (item : Item) :
    (item.shift changes).span = Changes.shiftSpan changes item.span := by
  cases item <;> rfl

theorem shift_offset {changes : List LineChange} {item : Item} {line place : Nat}
    (moved : Changes.shiftSpan changes (item.span.offset line) = item.span.offset place) :
    (item.offset line).shift changes = item.offset place := by
  cases item with
  | ofDraft draft =>
    change Changes.shiftSpan changes (draft.span.offset line) = draft.span.offset place at moved
    simp only [offset, shift, Draft.offset, moved]
  | ofNode node => exact congrArg ofNode moved

end Item

/-- An item of the old text that no change touches has moved with its lines to a place outside of all
windows. -/
def Stays (changes : List LineChange) (windows : List LineRange) (items : Item → Prop) (item : Item) :
    Prop :=
  ∃ old, items old ∧ Resolution.isTouched changes old.span = false ∧ old.shift changes = item ∧
    ∀ window ∈ windows, window.overlaps item.span.toRange = false

theorem stays_draft {changes : List LineChange} {windows : List LineRange} {items : Item → Prop}
    {draft : Draft} : Stays changes windows items (.ofDraft draft) ↔
      ∃ old, items (.ofDraft old) ∧ Resolution.isTouched changes old.span = false ∧
        { old with span := Changes.shiftSpan changes old.span } = draft ∧
        ∀ window ∈ windows, window.overlaps draft.span.toRange = false := by
  constructor
  · rintro ⟨old, has, untouched, moved, outside⟩
    cases old with
    | ofDraft old => exact ⟨old, has, untouched, Item.ofDraft.inj moved, outside⟩
    | ofNode => cases moved
  · rintro ⟨old, has, untouched, rfl, outside⟩
    exact ⟨.ofDraft old, has, untouched, rfl, outside⟩

theorem stays_node {changes : List LineChange} {windows : List LineRange} {items : Item → Prop}
    {node : Span} : Stays changes windows items (.ofNode node) ↔
      ∃ old, items (.ofNode old) ∧ Resolution.isTouched changes old = false ∧
        Changes.shiftSpan changes old = node ∧
        ∀ window ∈ windows, window.overlaps node.toRange = false := by
  constructor
  · rintro ⟨old, has, untouched, moved, outside⟩
    cases old with
    | ofDraft => cases moved
    | ofNode old => exact ⟨old, has, untouched, Item.ofNode.inj moved, outside⟩
  · rintro ⟨old, has, untouched, rfl, outside⟩
    exact ⟨.ofNode old, has, untouched, rfl, outside⟩

/-- What stays in a stretch between windows are the items of the old text that lie where it comes
from. -/
theorem stays_iff {changes : List LineChange} {old new : List String} {windows : List LineRange}
    {range : LineRange} {line : Nat} {items : Item → Prop} (script : EditScript 0 0 changes old new)
    (oldSmall : old.length < Word.signedLimit) (newSmall : new.length < Word.signedLimit)
    (fit : ∀ item, items item → item.span.Fits old.length) (echo : Echo changes old new range line)
    (clear : ∀ window ∈ windows, window.stop ≤ range.start ∨ range.stop ≤ window.start) {inner : Item}
    (positive : 1 ≤ inner.span.startLine) (short : inner.span.endLine ≤ range.stop - range.start) :
    Stays changes windows items (inner.offset range.start) ↔ items (inner.offset line) := by
  constructor
  · rintro ⟨origin, has, untouched, moved, _⟩
    have fits := fit origin has
    obtain ⟨place, carried⟩ := script.carried oldSmall newSmall fits untouched
    have spans := congrArg Item.span moved
    rw [Item.span_shift, carried.shiftSpan_eq fits oldSmall newSmall, Item.span_offset, Span.offset,
      Span.mk.injEq, Span.size] at spans
    obtain ⟨_, proper, _⟩ := fits
    -- The first line comes from the stretch of the old text, and so do the others.
    have first := carried 0 (by simp only [Span.size]; omega)
    have start := echo.kept (place - range.start) (by omega)
    rw [Nat.add_sub_cancel' (by omega)] at start
    have same := first.line_unique start
    obtain ⟨source, rfl, sourcePositive⟩ :=
      Item.exists_offset (show line < origin.span.startLine by omega) proper
    rw [Item.span_offset] at spans same proper
    simp only [Span.offset] at spans same proper
    have back := Item.shift_offset
      (echo.shiftSpan_eq oldSmall newSmall sourcePositive (by omega) (by omega))
    rw [Item.offset_injective (moved.symm.trans back)]
    exact has
  · intro has
    have proper := (fit _ has).2.1
    rw [Item.span_offset] at proper
    simp only [Span.offset, Nat.add_le_add_iff_right] at proper
    have moved := Item.shift_offset (echo.shiftSpan_eq oldSmall newSmall positive proper short)
    have untouched := echo.isTouched_eq_false script positive proper short
    rw [← Item.span_offset] at untouched
    refine ⟨inner.offset line, has, untouched, moved, fun window member => ?_⟩
    have away := clear window member
    rw [Item.span_offset, LineRange.overlaps_eq_false]
    simp only [Span.toRange, Span.offset]
    omega

/-! ### Outside of windows -/

namespace Resolution

variable {isBoundary : Option String → String → Bool} {version : Version}
  {changes : List LineChange} {old new : LineIndex} {windows : List LineRange}
  {swallowed : List Chunk} {resolution : Resolution}

/-- A stretch that no window overlaps comes from the old text. -/
theorem Windowed.echo (windowed : Windowed isBoundary version changes new windows swallowed resolution)
    (script : EditScript 0 0 changes old.rows new.rows) (oldSmall : old.size < Word.signedLimit)
    (newSmall : new.size < Word.signedLimit) {range : LineRange} (nonempty : range.start < range.stop)
    (inside : range.stop ≤ new.size)
    (outside : ∀ window ∈ windows, window.overlaps range = false) :
    ∃ line, Echo changes old.rows new.rows range line := by
  refine script.echo oldSmall newSmall nonempty inside fun change member => ?_
  have newSize : new.rows.length = new.size := rfl
  have bounds := script.new_bounds member
  have listed : around new.lines.length change ∈ firstWindows version changes new :=
    List.mem_append_right _ (List.mem_map_of_mem member)
  rw [show new.lines.length = new.size from List.length_map _] at listed
  obtain ⟨larger, largerListed, contains⟩ := windowed.settled.holdsWindow _ listed
    (by rw [size_cuts]; simp only [around]; omega)
  have away := LineRange.overlaps_eq_false.mp (outside larger largerListed)
  rw [size_cuts] at contains
  simp only [LineRange.Contains, around] at contains
  omega

end Resolution

end Chunking
