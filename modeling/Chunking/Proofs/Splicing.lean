/-
A text put together from what stays of an old one and from windows. Between two
windows stands a stretch of the old text that was cut out between its nodes, so
what a processor finds there is what it found before, moved; and windows have been
processed on their own. All of these pieces may be put together where windows
start and end. Going through the windows from left to right, the processor finds in
the text up to a window just what stays there and what windows have brought, and
in the end this holds of the whole text.
-/

import Chunking.Proofs.Gaps

namespace Chunking

namespace Cuts

variable {cuts : Cuts} {line : Nat}

theorem of_canStart (start : cuts.canStart line = true) :
    line = 0 ∨ (∃ old, Changes.origin? cuts.changes (line - 1) = some old ∧
      cuts.straddles (old + 1) = false) ∧ cuts.opensCleanly line = true := by
  simpa [canStart, Option.any_eq_true] using start

theorem of_canEnd (stop : cuts.canEnd line = true) :
    cuts.size ≤ line ∨ (∃ old, Changes.origin? cuts.changes line = some old ∧
      cuts.straddles old = false) ∧ cuts.opensCleanly line = true := by
  simpa [canEnd, Option.any_eq_true] using stop

end Cuts

/-- The item was found in a window and moved to its place. -/
def Reparsed (processor : Processor) (text : LineIndex) (windows : List LineRange) (item : Item) :
    Prop :=
  ∃ window ∈ windows, ∃ extraction,
    processor.process (text.slice window.start window.stop) .window = .ok extraction ∧
      ∃ inner, extraction.Has inner ∧ inner.offset window.start = item

/-- What is to be found in the new text. -/
def Found (processor : Processor) (items : Item → Prop) (changes : List LineChange) (new : String)
    (windows : List LineRange) (item : Item) : Prop :=
  Stays changes windows items item ∨ Reparsed processor (.ofText new) windows item

/-- Up to a line, what is found in the new text is what is to be found there. -/
def Upto (processor : Processor) (items : Item → Prop) (changes : List LineChange) (new : String)
    (windows : List LineRange) (line : Nat) : Prop :=
  processor.Finds ((LineIndex.ofText new).slice 0 line) fun item =>
    Found processor items changes new windows item ∧ item.span.endLine ≤ line

/-- What a new text is to be put together from. -/
structure Splice (processor : Processor) (items : Item → Prop) (version : Version)
    (changes : List LineChange) (old new : String) (windows : List LineRange) (swallowed : List Chunk)
    (resolution : Resolution) : Prop where
  compositional : processor.Compositional
  script : IsEditScript changes old new
  oldSmall : (LineIndex.ofText old).size < Word.signedLimit
  newSmall : (LineIndex.ofText new).size < Word.signedLimit
  windowed : Resolution.Windowed processor.isBoundary version changes (.ofText new) windows swallowed
    resolution
  processed : ∀ window ∈ windows, ∃ extraction, processor.process
    ((LineIndex.ofText new).slice window.start window.stop) .window = .ok extraction
  /-- What was found in the old text. -/
  finds : processor.Finds old items
  outline : ∀ node, items (.ofNode node) → node ∈ version.outline
  lineCount : version.lineCount = (LineIndex.ofText old).size

namespace Splice

variable {processor : Processor} {items : Item → Prop} {version : Version}
  {changes : List LineChange} {old new : String} {windows : List LineRange} {swallowed : List Chunk}
  {resolution : Resolution}
  (splice : Splice processor items version changes old new windows swallowed resolution)

include splice

/-! ### Stretches of the old text -/

theorem fits {item : Item} (has : items item) : item.span.Fits (LineIndex.ofText old).size :=
  splice.finds.fits splice.compositional has

/-- No node of the old text runs across a place that is not straddled. -/
theorem uncut {line : Nat} (inside : line ≤ (LineIndex.ofText old).size)
    (apart : (Resolution.cuts processor.isBoundary version changes (.ofText new)).straddles line =
      false) (node : Span) (has : items (.ofNode node)) :
    ¬ (node.startLine ≤ line ∧ line < node.endLine) := by
  rintro ⟨starts, stops⟩
  simp only [Cuts.straddles, Resolution.cuts, splice.lineCount, inside, decide_true, Bool.true_and,
    List.any_eq_false, Bool.and_eq_true, decide_eq_true_eq, not_and] at apart
  exact apart node (splice.outline node has) starts stops

section stretches

variable {range : LineRange} {line : Nat} (nonempty : range.start < range.stop)
  (echo : Echo changes (LineIndex.ofText old).rows (LineIndex.ofText new).rows range line)

include nonempty echo

/-- Behind a window, the old text is cut between nodes. -/
theorem uncut_start (inside : range.stop ≤ (LineIndex.ofText new).size)
    (starts : range.start = 0 ∨
      (Resolution.cuts processor.isBoundary version changes (.ofText new)).canEnd range.start = true)
    (node : Span) (has : items (.ofNode node)) : ¬ (node.startLine ≤ line ∧ line < node.endLine) := by
  have positive : 1 ≤ node.startLine := (splice.fits has).1
  rcases echo.before with ⟨_, first⟩ | ⟨later, _, _⟩
  · omega
  · rcases Cuts.of_canEnd (starts.resolve_left (by omega)) with beyond | ⟨⟨origin, found, apart⟩, _⟩
    · rw [Resolution.size_cuts] at beyond
      omega
    · have same := Option.some.inj (found.symm.trans (echo.kept 0 (by omega)).origin)
      have oldInside : line + (range.stop - range.start) ≤ (LineIndex.ofText old).size :=
        echo.stop_le nonempty
      rw [same] at apart
      exact splice.uncut (by omega) apart node has

/-- Before a window, the old text is cut between nodes. -/
theorem uncut_stop
    (stops : range.stop = (LineIndex.ofText new).size ∨
      (Resolution.cuts processor.isBoundary version changes (.ofText new)).canStart range.stop = true)
    (node : Span) (has : items (.ofNode node)) :
    ¬ (node.startLine ≤ line + (range.stop - range.start) ∧
      line + (range.stop - range.start) < node.endLine) := by
  have short : node.endLine ≤ (LineIndex.ofText old).size := (splice.fits has).2.2
  rcases stops with last | canStart
  · have all : line + (range.stop - range.start) = (LineIndex.ofText old).size :=
      echo.stop_eq splice.script splice.oldSmall splice.newSmall nonempty last
    omega
  · rcases Cuts.of_canStart canStart with first | ⟨⟨origin, found, apart⟩, _⟩
    · omega
    · have kept := echo.kept (range.stop - range.start - 1) (by omega)
      rw [show range.start + (range.stop - range.start - 1) = range.stop - 1 by omega] at kept
      have same := Option.some.inj (found.symm.trans kept.origin)
      have oldInside : line + (range.stop - range.start) ≤ (LineIndex.ofText old).size :=
        echo.stop_le nonempty
      rw [same, show line + (range.stop - range.start - 1) + 1 = line + (range.stop - range.start) by
        omega] at apart
      exact splice.uncut oldInside apart node has

end stretches

/-- A stretch between windows is a stretch of the old text, and what is found in it is what
stays. -/
theorem finds_gap {range : LineRange} (nonempty : range.start < range.stop)
    (inside : range.stop ≤ (LineIndex.ofText new).size)
    (clear : ∀ window ∈ windows, window.stop ≤ range.start ∨ range.stop ≤ window.start)
    (starts : range.start = 0 ∨
      (Resolution.cuts processor.isBoundary version changes (.ofText new)).canEnd range.start = true)
    (stops : range.stop = (LineIndex.ofText new).size ∨
      (Resolution.cuts processor.isBoundary version changes (.ofText new)).canStart range.stop = true) :
    processor.Finds ((LineIndex.ofText new).slice range.start range.stop) fun item =>
      1 ≤ item.span.startLine ∧ item.span.endLine ≤ range.stop - range.start ∧
        Stays changes windows items (item.offset range.start) := by
  have script : EditScript 0 0 changes (LineIndex.ofText old).rows (LineIndex.ofText new).rows :=
    splice.script
  obtain ⟨line, echo⟩ := splice.windowed.echo script splice.oldSmall splice.newSmall nonempty inside
    fun window member => LineRange.overlaps_eq_false.mpr ((clear window member).symm)
  have same : (LineIndex.ofText new).slice range.start range.stop =
      (LineIndex.ofText old).slice line (line + (range.stop - range.start)) := by
    rw [LineIndex.slice, LineIndex.slice, KeptLine.rows_eq echo.kept, Nat.add_sub_cancel_left]
  rw [same]
  refine (splice.finds.slice splice.compositional (Nat.le_add_right _ _) (echo.stop_le nonempty)
    (splice.uncut_start nonempty echo inside starts)
    (splice.uncut_stop nonempty echo stops)).congr fun item => ?_
  rw [Nat.add_sub_cancel_left]
  refine and_congr_right fun positive => and_congr_right fun short => ?_
  exact (stays_iff script splice.oldSmall splice.newSmall (fun item has => splice.fits has) echo clear
    positive short).symm

/-! ### From left to right -/

/-- What stays does so outside of all windows. -/
theorem stays_place {item : Item} (stays : Stays changes windows items item) :
    item.span.Fits (LineIndex.ofText new).size ∧
      ∀ window ∈ windows, item.span.endLine ≤ window.start ∨ window.stop < item.span.startLine := by
  obtain ⟨origin, has, untouched, rfl, outside⟩ := stays
  have fits := splice.fits has
  obtain ⟨place, carried⟩ :=
    EditScript.carried splice.script splice.oldSmall splice.newSmall fits untouched
  rw [Item.span_shift, carried.shiftSpan_eq fits splice.oldSmall splice.newSmall] at outside ⊢
  have stops : place + origin.span.size ≤ (LineIndex.ofText new).size := carried.stop_le fits
  obtain ⟨positive, proper, _⟩ := fits
  simp only [Span.Fits, Span.size, LineRange.overlaps_eq_false, Span.toRange] at outside stops ⊢
  refine ⟨by omega, fun window member => ?_⟩
  have away := outside window member
  omega

theorem window_stop_le {window : LineRange} (member : window ∈ windows) :
    window.stop ≤ (LineIndex.ofText new).size := by
  have inside := splice.windowed.settled.fair.inside window member
  rwa [Resolution.size_cuts] at inside

/-- What a window has brought lies in it. -/
theorem reparsed_place {item : Item} (reparsed : Reparsed processor (.ofText new) windows item) :
    item.span.Fits (LineIndex.ofText new).size ∧
      ∃ window ∈ windows, window.start < item.span.startLine ∧ item.span.endLine ≤ window.stop := by
  obtain ⟨window, member, extraction, processed, inner, has, rfl⟩ := reparsed
  have placed := Span.fits_offset (splice.window_stop_le member)
    (splice.compositional.fits processed has)
  rw [Item.span_offset]
  exact ⟨placed.1, window, member, placed.2⟩

theorem found_fits {item : Item} (found : Found processor items changes new windows item) :
    item.span.Fits (LineIndex.ofText new).size := by
  rcases found with stays | reparsed
  · exact (splice.stays_place stays).1
  · exact (splice.reparsed_place reparsed).1

/-- No item runs across an end of a window. -/
theorem uncrossed {place : Nat} {window : LineRange} (member : window ∈ windows)
    (edge : place = window.start ∨ place = window.stop) {item : Item}
    (found : Found processor items changes new windows item) :
    item.span.endLine ≤ place ∨ place < item.span.startLine := by
  have nonempty := splice.windowed.settled.fair.nonempty window member
  rcases found with stays | reparsed
  · obtain ⟨⟨_, proper, _⟩, outside⟩ := splice.stays_place stays
    have away := outside window member
    omega
  · obtain ⟨_, home, homeMember, starts, stops⟩ := splice.reparsed_place reparsed
    rcases splice.windowed.settled.fair.apart member homeMember with rfl | before | behind <;> omega

/-- What is found up to a place and behind it is put together. -/
theorem upto_append {start stop : Nat} (ordered : start ≤ stop)
    (inside : stop ≤ (LineIndex.ofText new).size)
    (opens : 0 < start → start < stop → (Resolution.cuts processor.isBoundary version changes
      (.ofText new)).opensCleanly start = true)
    (uncrossed : ∀ item, Found processor items changes new windows item →
      item.span.endLine ≤ start ∨ start < item.span.startLine)
    (front : Upto processor items changes new windows start)
    (piece : processor.Finds ((LineIndex.ofText new).slice start stop) fun item =>
      1 ≤ item.span.startLine ∧ item.span.endLine ≤ stop - start ∧
        Found processor items changes new windows (item.offset start)) :
    Upto processor items changes new windows stop := by
  rw [Upto, ← LineIndex.slice_append _ (Nat.zero_le start) ordered]
  refine (front.glue splice.compositional piece fun left right => ?_).congr fun item => ?_
  · rw [ne_eq, LineIndex.slice_eq_empty _ (by omega)] at left right
    exact ⟨LineIndex.endsLine_slice _ (by omega) (by omega),
      Processor.opens_slice rfl rfl (opens (by omega) (by omega)) stop⟩
  · have size := LineIndex.size_slice new 0 (show start ≤ _ by omega)
    rw [size, Nat.sub_zero]
    constructor
    · rintro (⟨found, short⟩ | ⟨inner, ⟨_, short, found⟩, rfl⟩)
      · exact ⟨found, by omega⟩
      · refine ⟨found, ?_⟩
        rw [Item.span_offset]
        simp only [Span.offset]
        omega
    · rintro ⟨found, short⟩
      rcases uncrossed item found with before | behind
      · exact Or.inl ⟨found, before⟩
      · obtain ⟨inner, rfl, positive⟩ := Item.exists_offset behind (splice.found_fits found).2.1
        rw [Item.span_offset] at short
        simp only [Span.offset] at short
        exact Or.inr ⟨inner, ⟨positive, by omega, found⟩, rfl⟩

/-- What is found in a window is what it has brought. -/
theorem finds_window {window : LineRange} (member : window ∈ windows) :
    processor.Finds ((LineIndex.ofText new).slice window.start window.stop) fun item =>
      1 ≤ item.span.startLine ∧ item.span.endLine ≤ window.stop - window.start ∧
        Found processor items changes new windows (item.offset window.start) := by
  obtain ⟨extraction, processed⟩ := splice.processed window member
  refine Or.inr ⟨extraction, (splice.compositional.scope _ _).mp processed, fun item => ?_⟩
  constructor
  · intro has
    have fits := splice.compositional.fits processed has
    rw [LineIndex.size_slice _ _ (splice.window_stop_le member)] at fits
    exact ⟨fits.1, fits.2.2, Or.inr ⟨window, member, extraction, processed, item, has, rfl⟩⟩
  · rintro ⟨positive, short, found⟩
    rcases found with stays | ⟨other, otherMember, extraction', processed', inner, has, same⟩
    · -- What stays does so outside of the window.
      obtain ⟨⟨_, proper, _⟩, outside⟩ := splice.stays_place stays
      have away := outside window member
      rw [Item.span_offset] at away proper
      simp only [Span.offset] at away proper
      omega
    · have placed := Span.fits_offset (splice.window_stop_le otherMember)
        (splice.compositional.fits processed' has)
      rw [← Item.span_offset, same, Item.span_offset] at placed
      simp only [Span.Fits, Span.offset] at placed
      rcases splice.windowed.settled.fair.apart member otherMember with rfl | before | behind
      · cases Except.ok.inj (processed.symm.trans processed')
        exact Item.offset_injective same ▸ has
      · omega
      · omega

theorem upto_window {window : LineRange} (member : window ∈ windows)
    (front : Upto processor items changes new windows window.start) :
    Upto processor items changes new windows window.stop := by
  have fair := splice.windowed.settled.fair
  refine splice.upto_append (Nat.le_of_lt (fair.nonempty window member))
    (splice.window_stop_le member) (fun later _ => ?_)
    (fun item found => splice.uncrossed member (Or.inl rfl) found) front (splice.finds_window member)
  rcases Cuts.of_canStart (fair.canStart window member) with first | ⟨_, opens⟩
  · omega
  · exact opens

/-- Between two windows, as before the first and behind the last one, there is only what stays. -/
theorem upto_gap (range : LineRange) (ordered : range.start ≤ range.stop)
    (inside : range.stop ≤ (LineIndex.ofText new).size)
    (clear : ∀ window ∈ windows, window.stop ≤ range.start ∨ range.stop ≤ window.start)
    (starts : range.start = 0 ∨ ∃ window ∈ windows, window.stop = range.start)
    (stops : range.stop = (LineIndex.ofText new).size ∨ ∃ window ∈ windows, window.start = range.stop)
    (front : Upto processor items changes new windows range.start) :
    Upto processor items changes new windows range.stop := by
  have fair := splice.windowed.settled.fair
  by_cases nothing : range.start = range.stop
  · exact nothing ▸ front
  have canEnd := starts.imp_right fun ⟨window, member, same⟩ => same ▸ fair.canEnd window member
  have canStart := stops.imp_right fun ⟨window, member, same⟩ => same ▸ fair.canStart window member
  have gap := splice.finds_gap (by omega) inside clear canEnd canStart
  refine splice.upto_append ordered inside (fun later nonempty => ?_) (fun item found => ?_) front
    (gap.congr fun item => and_congr_right fun positive => and_congr_right fun short => ?_)
  · rcases Cuts.of_canEnd (canEnd.resolve_left (by omega)) with beyond | ⟨_, opens⟩
    · rw [Resolution.size_cuts] at beyond
      omega
    · exact opens
  · rcases starts with first | ⟨window, member, same⟩
    · have positive := (splice.found_fits found).1
      omega
    · exact splice.uncrossed member (Or.inr same.symm) found
  · refine ⟨Or.inl, fun found => found.resolve_right fun reparsed => ?_⟩
    obtain ⟨⟨_, proper, _⟩, window, member, begins, ends⟩ := splice.reparsed_place reparsed
    have away := clear window member
    rw [Item.span_offset] at proper begins ends
    simp only [Span.offset] at proper begins ends
    omega

/-- The windows that are left are taken in from left to right. -/
theorem upto_size {rest : List LineRange} {place : Nat}
    (behind : ∀ window ∈ windows, window.stop ≤ place ∨ window ∈ rest)
    (ahead : ∀ window ∈ rest, window ∈ windows ∧ place ≤ window.start)
    (separated : rest.Pairwise (·.stop < ·.start))
    (edge : place = 0 ∨ ∃ window ∈ windows, window.stop = place)
    (inside : place ≤ (LineIndex.ofText new).size)
    (front : Upto processor items changes new windows place) :
    Upto processor items changes new windows (LineIndex.ofText new).size := by
  induction rest generalizing place with
  | nil =>
    refine splice.upto_gap ⟨place, (LineIndex.ofText new).size⟩ inside (Nat.le_refl _)
      (fun window member => ?_) edge (Or.inl rfl) front
    exact Or.inl ((behind window member).resolve_right List.not_mem_nil)
  | cons window rest inductionHypothesis =>
    obtain ⟨member, starts⟩ := ahead window List.mem_cons_self
    rw [List.pairwise_cons] at separated
    have stop := splice.window_stop_le member
    have nonempty := splice.windowed.settled.fair.nonempty window member
    have upToWindow : Upto processor items changes new windows window.start := by
      refine splice.upto_gap ⟨place, window.start⟩ starts (by dsimp only; omega) ?_ edge
        (Or.inr ⟨window, member, rfl⟩) front
      intro other otherMember
      refine (behind other otherMember).imp_right fun later => ?_
      rcases List.mem_cons.mp later with rfl | later
      · exact Nat.le_refl _
      · have apart := separated.1 other later
        dsimp only
        omega
    refine inductionHypothesis (fun other otherMember => ?_) (fun other otherMember => ?_) separated.2
      (Or.inr ⟨window, member, rfl⟩) stop (splice.upto_window member upToWindow)
    · rcases behind other otherMember with before | later
      · exact Or.inl (by omega)
      · exact (List.mem_cons.mp later).imp_left fun same => Nat.le_of_eq (congrArg _ same)
    · exact ⟨(ahead other (List.mem_cons_of_mem _ otherMember)).1,
        Nat.le_of_lt (separated.1 other otherMember)⟩

/-- What is found in the new text is what stays of the old one and what windows have brought. -/
theorem finds_new : processor.Finds new (Found processor items changes new windows) := by
  have none : Upto processor items changes new windows 0 := by
    rw [Upto, LineIndex.slice_self]
    refine Processor.Finds.of_empty ?_
    rintro item ⟨found, short⟩
    obtain ⟨positive, proper, _⟩ := splice.found_fits found
    omega
  have all := splice.upto_size (fun window member => Or.inr member)
    (fun window member => ⟨member, Nat.zero_le _⟩) splice.windowed.settled.fair.separated (Or.inl rfl)
    (Nat.zero_le _) none
  rw [Upto, LineIndex.slice_all] at all
  exact all.congr fun item => ⟨And.left, fun found => ⟨found, (splice.found_fits found).2.2⟩⟩

end Splice

end Chunking
