/-
The windows that an edit leads to. Growing, joining and swallowing only ever make
windows larger, so whatever was inside of a window at some point is inside of one
in the end. Each round ends by joining windows that start and end at cuts, and
joining invents no new ends, so the windows of the last round start and end at
cuts. Since every other round swallows a chunk, there are as many rounds as are
needed, and the last one swallows nothing: no chunk that is kept overlaps a
window.
-/

import Chunking.Scope.Windows
import Mathlib.Data.List.Basic
import Mathlib.Data.List.Pairwise

namespace Chunking

namespace LineRange

/-! ### Joining -/

/-- One range lies inside of another. -/
def Contains (outer inner : LineRange) : Prop :=
  outer.start ≤ inner.start ∧ inner.stop ≤ outer.stop

theorem Contains.refl (range : LineRange) : range.Contains range :=
  ⟨Nat.le_refl _, Nat.le_refl _⟩

theorem Contains.trans {outer middle inner : LineRange} (left : outer.Contains middle)
    (right : middle.Contains inner) : outer.Contains inner :=
  ⟨Nat.le_trans left.1 right.1, Nat.le_trans right.2 left.2⟩

theorem contains_hull_left (left right : LineRange) : (left.hull right).Contains left :=
  ⟨Nat.min_le_left _ _, Nat.le_max_left _ _⟩

theorem contains_hull_right (left right : LineRange) : (left.hull right).Contains right :=
  ⟨Nat.min_le_right _ _, Nat.le_max_right _ _⟩

theorem overlaps_eq_false {left right : LineRange} :
    left.overlaps right = false ↔ right.stop ≤ left.start ∨ left.stop ≤ right.start := by
  simp only [overlaps, Bool.and_eq_false_iff, decide_eq_false_iff_not, Nat.not_lt]

theorem inOrder_start_le {left right : LineRange} (ordered : left.inOrder right = true) :
    left.start ≤ right.start := by
  simp only [inOrder, Bool.or_eq_true, decide_eq_true_eq, Bool.and_eq_true, beq_iff_eq] at ordered
  omega

theorem inOrder_trans (first second third : LineRange) (left : first.inOrder second = true)
    (right : second.inOrder third = true) : first.inOrder third = true := by
  simp only [inOrder, Bool.or_eq_true, decide_eq_true_eq, Bool.and_eq_true, beq_iff_eq]
    at left right ⊢
  omega

theorem inOrder_total (left right : LineRange) :
    (left.inOrder right || right.inOrder left) = true := by
  simp only [inOrder, Bool.or_eq_true, decide_eq_true_eq, Bool.and_eq_true, beq_iff_eq]
  omega

section joining

variable {current : LineRange} {ranges : List LineRange}

theorem sorted_join {next : LineRange}
    (sorted : (current :: next :: ranges).Pairwise (·.start ≤ ·.start)) :
    (LineRange.mk current.start (max current.stop next.stop) :: ranges).Pairwise
      (·.start ≤ ·.start) := by
  simp only [List.pairwise_cons] at sorted ⊢
  exact ⟨fun later among => sorted.1 later (List.mem_cons_of_mem _ among), sorted.2.2⟩

/-- No joined range starts before the first one. -/
theorem start_le_of_mem_joinFrom {range : LineRange}
    (sorted : (current :: ranges).Pairwise (·.start ≤ ·.start))
    (member : range ∈ joinFrom current ranges) : current.start ≤ range.start := by
  induction ranges generalizing current with
  | nil => exact Nat.le_of_eq (congrArg start (List.mem_singleton.mp member)).symm
  | cons next rest inductionHypothesis =>
    unfold joinFrom at member
    split at member
    · have below := inductionHypothesis (sorted_join sorted) member
      exact below
    · rw [List.pairwise_cons] at sorted
      rcases List.mem_cons.mp member with rfl | later
      · exact Nat.le_refl _
      · exact Nat.le_trans (sorted.1 next List.mem_cons_self)
          (inductionHypothesis sorted.2 later)

/-- Between two joined ranges there is at least one line. -/
theorem separated_joinFrom (sorted : (current :: ranges).Pairwise (·.start ≤ ·.start)) :
    (joinFrom current ranges).Pairwise (·.stop < ·.start) := by
  induction ranges generalizing current with
  | nil => exact List.pairwise_singleton _ _
  | cons next rest inductionHypothesis =>
    unfold joinFrom
    split
    · exact inductionHypothesis (sorted_join sorted)
    next apart =>
      rw [List.pairwise_cons] at sorted
      refine List.pairwise_cons.mpr ⟨fun later member => ?_, inductionHypothesis sorted.2⟩
      have := start_le_of_mem_joinFrom sorted.2 member
      omega

/-- A joined range starts where one of the ranges starts and stops where one of them stops. -/
theorem ends_of_mem_joinFrom {range : LineRange} (member : range ∈ joinFrom current ranges) :
    (∃ first ∈ current :: ranges, range.start = first.start) ∧
      ∃ last ∈ current :: ranges, range.stop = last.stop := by
  induction ranges generalizing current with
  | nil =>
    rw [List.mem_singleton.mp member]
    exact ⟨⟨current, List.mem_cons_self, rfl⟩, ⟨current, List.mem_cons_self, rfl⟩⟩
  | cons next rest inductionHypothesis =>
    unfold joinFrom at member
    split at member
    · obtain ⟨⟨first, firstMember, starts⟩, last, lastMember, stops⟩ := inductionHypothesis member
      refine ⟨?_, ?_⟩
      · rcases List.mem_cons.mp firstMember with rfl | later
        · exact ⟨current, List.mem_cons_self, starts⟩
        · exact ⟨first, List.mem_cons_of_mem _ (List.mem_cons_of_mem _ later), starts⟩
      · rcases List.mem_cons.mp lastMember with rfl | later
        · rcases Nat.le_total current.stop next.stop with shorter | longer
          · exact ⟨next, List.mem_cons_of_mem _ List.mem_cons_self,
              stops.trans (Nat.max_eq_right shorter)⟩
          · exact ⟨current, List.mem_cons_self, stops.trans (Nat.max_eq_left longer)⟩
        · exact ⟨last, List.mem_cons_of_mem _ (List.mem_cons_of_mem _ later), stops⟩
    · rcases List.mem_cons.mp member with rfl | later
      · exact ⟨⟨range, List.mem_cons_self, rfl⟩, ⟨range, List.mem_cons_self, rfl⟩⟩
      · obtain ⟨⟨first, firstMember, starts⟩, last, lastMember, stops⟩ := inductionHypothesis later
        exact ⟨⟨first, List.mem_cons_of_mem _ firstMember, starts⟩,
          ⟨last, List.mem_cons_of_mem _ lastMember, stops⟩⟩

/-- Every range is inside of a joined one. -/
theorem joinFrom_contains {range : LineRange}
    (sorted : (current :: ranges).Pairwise (·.start ≤ ·.start))
    (member : range ∈ current :: ranges) : ∃ joined ∈ joinFrom current ranges,
      joined.Contains range := by
  induction ranges generalizing current range with
  | nil =>
    rw [List.mem_singleton.mp member]
    exact ⟨current, List.mem_cons_self, .refl current⟩
  | cons next rest inductionHypothesis =>
    have below := (List.pairwise_cons.mp sorted).1 next List.mem_cons_self
    unfold joinFrom
    split
    · have joins (inner : LineRange)
          (inside : (LineRange.mk current.start (max current.stop next.stop)).Contains inner) :
          ∃ joined ∈ joinFrom ⟨current.start, max current.stop next.stop⟩ rest,
            joined.Contains inner := by
        obtain ⟨joined, among, contains⟩ :=
          inductionHypothesis (sorted_join sorted) List.mem_cons_self
        exact ⟨joined, among, contains.trans inside⟩
      rcases List.mem_cons.mp member with rfl | later
      · exact joins range ⟨Nat.le_refl _, Nat.le_max_left _ _⟩
      · rcases List.mem_cons.mp later with rfl | last
        · exact joins range ⟨below, Nat.le_max_right _ _⟩
        · exact inductionHypothesis (sorted_join sorted) (List.mem_cons_of_mem _ last)
    · rcases List.mem_cons.mp member with rfl | later
      · exact ⟨range, List.mem_cons_self, .refl range⟩
      · obtain ⟨joined, among, contains⟩ :=
          inductionHypothesis (List.pairwise_cons.mp sorted).2 later
        exact ⟨joined, List.mem_cons_of_mem _ among, contains⟩

theorem nonempty_of_mem_joinFrom {range : LineRange}
    (nonempty : ∀ part ∈ current :: ranges, part.start < part.stop)
    (member : range ∈ joinFrom current ranges) : range.start < range.stop := by
  induction ranges generalizing current with
  | nil =>
    rw [List.mem_singleton.mp member]
    exact nonempty current List.mem_cons_self
  | cons next rest inductionHypothesis =>
    have first := nonempty current List.mem_cons_self
    have others : ∀ part ∈ next :: rest, part.start < part.stop :=
      fun part among => nonempty part (List.mem_cons_of_mem _ among)
    unfold joinFrom at member
    split at member
    · refine inductionHypothesis (fun part among => ?_) member
      rcases List.mem_cons.mp among with rfl | later
      · exact Nat.lt_of_lt_of_le first (Nat.le_max_left _ _)
      · exact others part (List.mem_cons_of_mem _ later)
    · rcases List.mem_cons.mp member with rfl | later
      · exact first
      · exact inductionHypothesis others later

end joining

/-- What joining makes of ranges: ranges that are not empty and lie apart, that start and stop
where ranges did before, and that hold every range which is not empty. -/
theorem coalesce_spec (ranges : List LineRange) :
    (coalesce ranges).Pairwise (·.stop < ·.start) ∧
      (∀ range ∈ coalesce ranges, range.start < range.stop ∧
        (∃ first ∈ ranges, range.start = first.start) ∧
        ∃ last ∈ ranges, range.stop = last.stop) ∧
      ∀ range ∈ ranges, range.start < range.stop →
        ∃ joined ∈ coalesce ranges, joined.Contains range := by
  have members : ∀ range, range ∈ (ranges.filter (!·.isEmpty)).mergeSort inOrder ↔
      range ∈ ranges ∧ range.start < range.stop := by
    intro range
    rw [List.mem_mergeSort, List.mem_filter]
    simp only [isEmpty, Bool.not_eq_true', decide_eq_false_iff_not, Nat.not_le]
  have sorted : ((ranges.filter (!·.isEmpty)).mergeSort inOrder).Pairwise (·.start ≤ ·.start) :=
    (List.pairwise_mergeSort inOrder_trans inOrder_total _).imp inOrder_start_le
  unfold coalesce
  cases order : (ranges.filter (!·.isEmpty)).mergeSort inOrder with
  | nil =>
    refine ⟨List.Pairwise.nil, by simp, fun range member nonempty => ?_⟩
    have listed := (members range).mpr ⟨member, nonempty⟩
    rw [order] at listed
    cases listed
  | cons current rest =>
    rw [order] at members sorted
    refine ⟨separated_joinFrom sorted, fun range member => ?_, fun range member nonempty => ?_⟩
    · obtain ⟨⟨first, firstMember, starts⟩, last, lastMember, stops⟩ := ends_of_mem_joinFrom member
      exact ⟨nonempty_of_mem_joinFrom (fun part among => ((members part).mp among).2) member,
        ⟨first, ((members first).mp firstMember).1, starts⟩,
        ⟨last, ((members last).mp lastMember).1, stops⟩⟩
    · exact joinFrom_contains sorted ((members range).mpr ⟨member, nonempty⟩)

end LineRange

/-! ### Snapping -/

namespace Cuts

variable (cuts : Cuts)

theorem startBefore_le (line : Nat) : cuts.startBefore line ≤ line := by
  induction line with
  | zero => exact Nat.le_refl _
  | succ line inductionHypothesis =>
    unfold startBefore
    split
    · exact Nat.le_refl _
    · exact Nat.le_succ_of_le inductionHypothesis

theorem canStart_startBefore (line : Nat) : cuts.canStart (cuts.startBefore line) = true := by
  induction line with
  | zero => rfl
  | succ line inductionHypothesis =>
    unfold startBefore
    split
    next start => exact start
    next => exact inductionHypothesis

theorem le_endAfter (steps line : Nat) : line ≤ cuts.endAfter steps line := by
  induction steps generalizing line with
  | zero => exact Nat.le_refl _
  | succ steps inductionHypothesis =>
    unfold endAfter
    split
    · exact Nat.le_refl _
    · exact Nat.le_trans (Nat.le_succ _) (inductionHypothesis (line + 1))

theorem endAfter_le (steps line : Nat) : cuts.endAfter steps line ≤ line + steps := by
  induction steps generalizing line with
  | zero => exact Nat.le_refl _
  | succ steps inductionHypothesis =>
    unfold endAfter
    split
    · exact Nat.le_add_right _ _
    · have := inductionHypothesis (line + 1)
      omega

/-- The end of the text is always a place to end at, so the steps to it are enough. -/
theorem canEnd_endAfter (steps line : Nat) (enough : cuts.size ≤ line + steps) :
    cuts.canEnd (cuts.endAfter steps line) = true := by
  induction steps generalizing line with
  | zero =>
    rw [endAfter, canEnd, decide_eq_true (by omega : cuts.size ≤ line), Bool.true_or]
  | succ steps inductionHypothesis =>
    unfold endAfter
    split
    next stop => exact stop
    next => exact inductionHypothesis (line + 1) (by omega)

/-- What snapping makes of a window: one that starts and ends at cuts, inside of the text, and
holds all lines of the window that the text has. -/
theorem snap_spec (window : LineRange) :
    cuts.canStart (cuts.snap window).start = true ∧ cuts.canEnd (cuts.snap window).stop = true ∧
      (cuts.snap window).stop ≤ cuts.size ∧
      (cuts.snap window).Contains ⟨window.start, min window.stop cuts.size⟩ := by
  have starts := cuts.startBefore_le (min window.start cuts.size)
  simp only [snap, LineRange.Contains]
  refine ⟨cuts.canStart_startBefore _, cuts.canEnd_endAfter _ _ (by omega), ?_, by omega, ?_⟩
  · refine Nat.le_trans (cuts.endAfter_le _ _) ?_
    omega
  · refine Nat.le_trans ?_ (cuts.le_endAfter _ _)
    omega

end Cuts

/-! ### Swallowing -/

namespace Windows

/-- Windows that are not empty, lie apart inside of the text, and start and end at cuts. -/
structure Fair (cuts : Cuts) (windows : List LineRange) : Prop where
  nonempty : ∀ window ∈ windows, window.start < window.stop
  inside : ∀ window ∈ windows, window.stop ≤ cuts.size
  separated : windows.Pairwise (·.stop < ·.start)
  canStart : ∀ window ∈ windows, cuts.canStart window.start = true
  canEnd : ∀ window ∈ windows, cuts.canEnd window.stop = true

/-- Two windows are the same, or one is behind the other. -/
theorem Fair.apart {cuts : Cuts} {windows : List LineRange} (fair : Fair cuts windows)
    {window other : LineRange} (member : window ∈ windows) (otherMember : other ∈ windows) :
    window = other ∨ window.stop < other.start ∨ other.stop < window.start := by
  have ordered := List.pairwise_iff_getElem.mp fair.separated
  obtain ⟨index, inside, rfl⟩ := List.getElem_of_mem member
  obtain ⟨otherIndex, otherInside, rfl⟩ := List.getElem_of_mem otherMember
  rcases Nat.lt_trichotomy index otherIndex with before | rfl | behind
  · exact Or.inr (Or.inl (ordered _ _ _ _ before))
  · exact Or.inl rfl
  · exact Or.inr (Or.inr (ordered _ _ _ _ behind))

theorem fair_coalesce (cuts : Cuts) (windows : List LineRange) :
    Fair cuts (LineRange.coalesce (windows.map cuts.snap)) := by
  obtain ⟨separated, ends, _⟩ := LineRange.coalesce_spec (windows.map cuts.snap)
  have snapped : ∀ range ∈ windows.map cuts.snap, cuts.canStart range.start = true ∧
      cuts.canEnd range.stop = true ∧ range.stop ≤ cuts.size := by
    intro range member
    obtain ⟨window, _, rfl⟩ := List.mem_map.mp member
    obtain ⟨starts, stops, inside, _⟩ := cuts.snap_spec window
    exact ⟨starts, stops, inside⟩
  refine ⟨fun window member => (ends window member).1, fun window member => ?_, separated,
    fun window member => ?_, fun window member => ?_⟩
  · obtain ⟨_, _, last, lastMember, stops⟩ := ends window member
    exact stops ▸ (snapped last lastMember).2.2
  · obtain ⟨_, ⟨first, firstMember, starts⟩, _⟩ := ends window member
    exact starts ▸ (snapped first firstMember).1
  · obtain ⟨_, _, last, lastMember, stops⟩ := ends window member
    exact stops ▸ (snapped last lastMember).2.1

/-- Every line that a window has in the text stays in one window. -/
theorem coalesce_contains (cuts : Cuts) {windows : List LineRange} {window : LineRange}
    (member : window ∈ windows) (nonempty : window.start < min window.stop cuts.size) :
    ∃ joined ∈ LineRange.coalesce (windows.map cuts.snap),
      joined.Contains ⟨window.start, min window.stop cuts.size⟩ := by
  obtain ⟨_, _, _, contains⟩ := cuts.snap_spec window
  have proper : (cuts.snap window).start < (cuts.snap window).stop :=
    Nat.lt_of_le_of_lt contains.1 (Nat.lt_of_lt_of_le nonempty contains.2)
  obtain ⟨joined, among, outer⟩ := (LineRange.coalesce_spec (windows.map cuts.snap)).2.2
    (cuts.snap window) (List.mem_map_of_mem member) proper
  exact ⟨joined, among, outer.trans contains⟩

theorem swallow?_eq_none {range : LineRange} {windows : List LineRange} :
    swallow? range windows = none ↔ ∀ window ∈ windows, window.overlaps range = false := by
  induction windows with
  | nil => simp [swallow?]
  | cons window rest inductionHypothesis =>
    unfold swallow?
    split
    next overlap => simp [overlap]
    next apart => simp [inductionHypothesis, apart]

/-- A window that swallows a range holds it, and all windows hold what they held. -/
theorem swallow?_contains {range : LineRange} {windows grown : List LineRange}
    (swallowed : swallow? range windows = some grown) :
    (∃ window ∈ grown, window.Contains range) ∧
      ∀ window ∈ windows, ∃ larger ∈ grown, larger.Contains window := by
  induction windows generalizing grown with
  | nil => simp [swallow?] at swallowed
  | cons window rest inductionHypothesis =>
    unfold swallow? at swallowed
    split at swallowed
    · cases swallowed
      refine ⟨⟨_, List.mem_cons_self, LineRange.contains_hull_right window range⟩, ?_⟩
      intro other member
      rcases List.mem_cons.mp member with rfl | later
      · exact ⟨_, List.mem_cons_self, LineRange.contains_hull_left other range⟩
      · exact ⟨other, List.mem_cons_of_mem _ later, .refl other⟩
    · obtain ⟨tail, found, rfl⟩ := Option.map_eq_some_iff.mp swallowed
      obtain ⟨⟨holder, holderMember, holds⟩, others⟩ := inductionHypothesis found
      refine ⟨⟨holder, List.mem_cons_of_mem _ holderMember, holds⟩, fun other member => ?_⟩
      rcases List.mem_cons.mp member with rfl | later
      · exact ⟨other, List.mem_cons_self, .refl other⟩
      · obtain ⟨larger, largerMember, contains⟩ := others other later
        exact ⟨larger, List.mem_cons_of_mem _ largerMember, contains⟩

/-- What a sweep does: windows only grow, and each chunk is either kept or ends up inside of a
window. -/
theorem sweep_spec (windows : List LineRange) (chunks : List Chunk) :
    (∀ window ∈ windows, ∃ larger ∈ (sweep windows chunks).windows, larger.Contains window) ∧
      (∀ chunk ∈ (sweep windows chunks).swallowed,
        ∃ window ∈ (sweep windows chunks).windows, window.Contains chunk.span.toRange) ∧
      ((sweep windows chunks).kept ++ (sweep windows chunks).swallowed).Perm chunks ∧
      (sweep windows chunks).kept.Sublist chunks := by
  induction chunks generalizing windows with
  | nil => exact ⟨fun window member => ⟨window, member, .refl window⟩, by simp [sweep], .nil, .slnil⟩
  | cons chunk rest inductionHypothesis =>
    unfold sweep
    split
    next grown swallowed =>
      obtain ⟨grows, holds, permutation, sublist⟩ := inductionHypothesis grown
      obtain ⟨⟨holder, holderMember, inside⟩, larger⟩ := swallow?_contains swallowed
      refine ⟨fun window member => ?_, fun other member => ?_, ?_, sublist.cons chunk⟩
      · obtain ⟨middle, middleMember, inner⟩ := larger window member
        obtain ⟨outer, outerMember, contains⟩ := grows middle middleMember
        exact ⟨outer, outerMember, contains.trans inner⟩
      · rcases List.mem_cons.mp member with rfl | later
        · obtain ⟨outer, outerMember, contains⟩ := grows holder holderMember
          exact ⟨outer, outerMember, contains.trans inside⟩
        · exact holds other later
      · exact List.perm_middle.trans (permutation.cons chunk)
    next =>
      obtain ⟨grows, holds, permutation, sublist⟩ := inductionHypothesis windows
      exact ⟨grows, holds, permutation.cons chunk, sublist.cons_cons chunk⟩

/-- If nothing is swallowed, no window overlaps a chunk. -/
theorem sweep_swallowed_eq_nil {windows : List LineRange} {chunks : List Chunk}
    (nothing : (sweep windows chunks).swallowed = []) :
    ∀ chunk ∈ chunks, ∀ window ∈ windows, window.overlaps chunk.span.toRange = false := by
  induction chunks with
  | nil => simp
  | cons chunk rest inductionHypothesis =>
    unfold sweep at nothing
    split at nothing
    next => simp at nothing
    next apart =>
      intro other member
      rcases List.mem_cons.mp member with rfl | later
      · exact swallow?_eq_none.mp apart
      · exact inductionHypothesis nothing other later

/-! ### Settling -/

/-- What windows and chunks come to: fair windows that hold all lines of the windows before and of
the chunks that were swallowed, and overlap none of the chunks that were kept. -/
structure Settled (cuts : Cuts) (windows : List LineRange) (chunks : List Chunk)
    (settled : List LineRange) (kept swallowed : List Chunk) : Prop where
  fair : Fair cuts settled
  apart : ∀ chunk ∈ kept, ∀ window ∈ settled, window.overlaps chunk.span.toRange = false
  holdsWindow : ∀ window ∈ windows, window.start < min window.stop cuts.size →
    ∃ larger ∈ settled, larger.Contains ⟨window.start, min window.stop cuts.size⟩
  holdsSwallowed : ∀ chunk ∈ swallowed,
    chunk.span.toRange.start < min chunk.span.toRange.stop cuts.size →
    ∃ larger ∈ settled,
      larger.Contains ⟨chunk.span.toRange.start, min chunk.span.toRange.stop cuts.size⟩
  permutation : (kept ++ swallowed).Perm chunks
  sublist : kept.Sublist chunks

/-- One round: if nothing is swallowed, the joined windows are what is looked for. -/
theorem settled_of_nothing_swallowed (cuts : Cuts) (windows : List LineRange) (chunks : List Chunk)
    (nothing : ∀ chunk ∈ chunks, ∀ window ∈ LineRange.coalesce (windows.map cuts.snap),
      window.overlaps chunk.span.toRange = false) :
    Settled cuts windows chunks (LineRange.coalesce (windows.map cuts.snap)) chunks [] where
  fair := fair_coalesce cuts windows
  apart := nothing
  holdsWindow := fun _ member nonempty => coalesce_contains cuts member nonempty
  holdsSwallowed := by simp
  permutation := by rw [List.append_nil]
  sublist := .refl chunks

/-- One round: what the windows come to after a sweep is what they come to. -/
theorem Settled.of_sweep {cuts : Cuts} {windows : List LineRange} {chunks : List Chunk}
    {settled : List LineRange} {kept swallowed : List Chunk}
    (rest : Settled cuts
      (sweep (LineRange.coalesce (windows.map cuts.snap)) chunks).windows
      (sweep (LineRange.coalesce (windows.map cuts.snap)) chunks).kept settled kept swallowed) :
    Settled cuts windows chunks settled kept
      ((sweep (LineRange.coalesce (windows.map cuts.snap)) chunks).swallowed ++ swallowed) := by
  obtain ⟨grows, holds, permutation, sublist⟩ :=
    sweep_spec (LineRange.coalesce (windows.map cuts.snap)) chunks
  -- A range inside of a swept window is inside of a settled one as far as the text reaches.
  have settles : ∀ range swept : LineRange,
      swept ∈ (sweep (LineRange.coalesce (windows.map cuts.snap)) chunks).windows →
      swept.Contains range → range.start < min range.stop cuts.size →
      ∃ larger ∈ settled, larger.Contains ⟨range.start, min range.stop cuts.size⟩ := by
    intro range swept member inside nonempty
    have starts := inside.1
    have stops := inside.2
    obtain ⟨larger, largerMember, contains⟩ := rest.holdsWindow swept member (by omega)
    exact ⟨larger, largerMember, contains.trans ⟨starts, by dsimp only; omega⟩⟩
  refine ⟨rest.fair, rest.apart, fun window member nonempty => ?_, fun chunk member nonempty => ?_,
    ?_, rest.sublist.trans sublist⟩
  · obtain ⟨joined, joinedMember, inside⟩ := coalesce_contains cuts member nonempty
    obtain ⟨swept, sweptMember, larger⟩ := grows joined joinedMember
    obtain ⟨final, finalMember, contains⟩ := settles _ swept sweptMember (larger.trans inside)
      (by dsimp only; omega)
    exact ⟨final, finalMember, contains.trans ⟨Nat.le_refl _, by dsimp only; omega⟩⟩
  · rcases List.mem_append.mp member with now | later
    · obtain ⟨swept, sweptMember, inside⟩ := holds chunk now
      exact settles _ swept sweptMember inside nonempty
    · exact rest.holdsSwallowed chunk later nonempty
  · refine List.Perm.trans ?_ permutation
    refine List.Perm.trans ?_ (rest.permutation.append_right _)
    rw [List.append_assoc]
    exact (List.perm_append_comm).append_left kept

/-- As many rounds as there are chunks are enough, since each but the last swallows one. -/
theorem settled_close (cuts : Cuts) (rounds : Nat) (windows : List LineRange) (chunks : List Chunk)
    (swallowed : List Chunk) (enough : chunks.length ≤ rounds) :
    ∃ more, (close cuts rounds windows chunks swallowed).swallowed = swallowed ++ more ∧
      Settled cuts windows chunks (close cuts rounds windows chunks swallowed).windows
        (close cuts rounds windows chunks swallowed).kept more := by
  induction rounds generalizing windows chunks swallowed with
  | zero =>
    have none : chunks = [] := List.eq_nil_of_length_eq_zero (by omega)
    subst none
    refine ⟨[], (List.append_nil _).symm, ?_⟩
    exact settled_of_nothing_swallowed cuts windows [] (by simp)
  | succ rounds inductionHypothesis =>
    unfold close
    simp only
    split
    next empty =>
      refine ⟨[], (List.append_nil _).symm, ?_⟩
      exact settled_of_nothing_swallowed cuts windows chunks
        (sweep_swallowed_eq_nil (List.isEmpty_iff.mp empty))
    next some =>
      obtain ⟨_, _, permutation, _⟩ :=
        sweep_spec (LineRange.coalesce (windows.map cuts.snap)) chunks
      have fewer := permutation.length_eq
      have positive := List.length_pos_iff.mpr fun nil => some (List.isEmpty_iff.mpr nil)
      rw [List.length_append] at fewer
      obtain ⟨more, appended, settled⟩ := inductionHypothesis
        (sweep (LineRange.coalesce (windows.map cuts.snap)) chunks).windows
        (sweep (LineRange.coalesce (windows.map cuts.snap)) chunks).kept
        (swallowed ++ (sweep (LineRange.coalesce (windows.map cuts.snap)) chunks).swallowed)
        (by omega)
      refine ⟨(sweep (LineRange.coalesce (windows.map cuts.snap)) chunks).swallowed ++ more, ?_,
        settled.of_sweep⟩
      rw [appended, List.append_assoc]

theorem settled_settle (cuts : Cuts) (windows : List LineRange) (chunks : List Chunk) :
    Settled cuts windows chunks (settle cuts windows chunks).windows
      (settle cuts windows chunks).kept (settle cuts windows chunks).swallowed := by
  obtain ⟨more, appended, settled⟩ :=
    settled_close cuts chunks.length windows chunks [] (Nat.le_refl _)
  rw [List.nil_append] at appended
  rw [settle, appended]
  exact settled

end Windows

end Chunking
