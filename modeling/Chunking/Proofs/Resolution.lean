/-
What an edit does to the chunks of a version. Whatever the changes are, no chunk
gets lost: each one survives or is dropped, and a survivor is the old chunk up to
its lines. If the changes are an edit script, a survivor stands on the same rows
of the new text as on those of the old one, so its digest stays right, and
survivors stay in their order.
-/

import Chunking.Proofs.EditScript
import Chunking.Proofs.Lineage
import Chunking.Proofs.Merging
import Chunking.Proofs.Rows
import Chunking.Proofs.Windows
import Chunking.Scope

namespace Chunking

/-! ### Carried spans -/

/-- The lines of an old span are kept as a whole, from line `place` of the new text on. -/
def Carried (changes : List LineChange) (old new : List String) (span : Span) (place : Nat) : Prop :=
  ∀ count < span.size, KeptLine 0 0 changes old new (span.startLine - 1 + count) (place + count)

theorem EditScript.carried {changes : List LineChange} {old new : List String}
    (script : EditScript 0 0 changes old new) (oldSmall : old.length < Word.signedLimit)
    (newSmall : new.length < Word.signedLimit) {span : Span} (fits : span.Fits old.length)
    (untouched : Resolution.isTouched changes span = false) :
    ∃ place, Carried changes old new span place := by
  obtain ⟨positive, proper, inside⟩ := fits
  have apart : ∀ change ∈ changes, change.touches span.toRange = false := by
    simpa [Resolution.isTouched] using untouched
  have size : span.toRange.stop - span.toRange.start = span.size := by
    simp only [Span.toRange, Span.size]
    omega
  have nonempty : span.toRange.start < span.toRange.stop := by
    simp only [Span.toRange]
    omega
  obtain ⟨place, kept⟩ := script.moves oldSmall newSmall nonempty inside apart
  exact ⟨place, fun count bound => kept count (by omega)⟩

namespace Carried

variable {changes : List LineChange} {old new : List String} {span : Span} {place : Nat}

theorem stop_le (carried : Carried changes old new span place) {lineCount : Nat}
    (fits : span.Fits lineCount) : place + span.size ≤ new.length := by
  have last := (carried (span.size - 1) (by have := fits.2.1; simp only [Span.size]; omega)).newStop
  have := fits.2.1
  simp only [Span.size] at last ⊢
  omega

/-- The place is where the span is said to go. -/
theorem shiftSpan_eq (carried : Carried changes old new span place)
    (fits : span.Fits old.length) (oldSmall : old.length < Word.signedLimit)
    (newSmall : new.length < Word.signedLimit) :
    Changes.shiftSpan changes span = ⟨place + 1, place + span.size⟩ := by
  have stops := carried.stop_le fits
  obtain ⟨positive, proper, inside⟩ := fits
  have size : span.size = span.endLine - span.startLine + 1 := by
    simp only [Span.size]
    omega
  have first := (carried 0 (by omega)).moved
  have last := (carried (span.size - 1) (by omega)).moved
  rw [show span.startLine - 1 + (span.size - 1) = span.endLine - 1 by omega] at last
  rw [Nat.add_zero] at first
  rw [Changes.shiftSpan, Changes.shift, Changes.shift,
    Word.moved_of_lt (by omega) (show _ = ((place + 1 : Nat) : Int) by omega) (by omega),
    Word.moved_of_lt (by omega) (show _ = ((place + span.size : Nat) : Int) by omega) (by omega)]

/-- Spans stay in their order. -/
theorem before {other : Span} {otherPlace : Nat} (script : EditScript 0 0 changes old new)
    (left : Carried changes old new span place) (right : Carried changes old new other otherPlace)
    (proper : span.startLine ≤ span.endLine) (otherProper : other.startLine ≤ other.endLine)
    (positive : 1 ≤ span.startLine) (ordered : span.Before other) :
    place + span.size ≤ otherPlace := by
  have sizes : span.size = span.endLine - span.startLine + 1 := by
    simp only [Span.size]
    omega
  have otherSizes : 0 < other.size := by
    simp only [Span.size]
    omega
  have last := left (span.size - 1) (by omega)
  have first := right 0 otherSizes
  unfold Span.Before at ordered
  have := last.place_lt script first (by omega)
  omega

end Carried

namespace Resolution

/-! ### The two outcomes -/

variable (isBoundary : Option String → String → Bool) (settings : Settings) (version : Version)
  (changes : List LineChange) (text : LineIndex)

/-- What decides about cuts in the new text. -/
def cuts : Cuts :=
  { lines := text.lines
    isBoundary
    changes
    outline := version.outline
    oldLineCount := version.lineCount }

theorem size_cuts : (cuts isBoundary version changes text).size = text.size :=
  List.length_map _

/-- The chunks with a change inside of them. -/
def touched : List Chunk :=
  version.chunks.filter (isTouched changes ·.span)

/-- The other chunks, placed in the new text. -/
def moved : List Chunk :=
  (version.chunks.filter (!isTouched changes ·.span)).map fun chunk =>
    { chunk with span := Changes.shiftSpan changes chunk.span }

/-- The windows from which the search for cuts starts. -/
def firstWindows : List LineRange :=
  (touched version changes).map (mappedRange changes text.lines.length ·.span)
    ++ changes.map (around text.lines.length)

/-- What the windows come to, and the chunks that stay clear of changes with them. -/
def found : Windows.Sweep :=
  Windows.settle (cuts isBoundary version changes text) (firstWindows version changes text)
    (moved version changes)

/-- The resolution into the windows that are found. -/
def cutOut : Resolution :=
  { scope := .windows (found isBoundary version changes text).windows
    survivors := (found isBoundary version changes text).kept
    invalidated := (touched version changes).map (Invalidated.ofPrior changes)
      ++ (found isBoundary version changes text).swallowed.map Invalidated.atOwnPlace }

/-- Windows are cut only out of texts whose old outline is known. -/
def Outlined : Prop :=
  version.outline ≠ [] ∨ version.lineCount = 0

/-- Either all chunks are dropped, or those that changes touch and windows swallow. -/
theorem resolve_eq :
    (∃ reason, resolve isBoundary settings version changes text =
      full version.chunks changes reason) ∨
    (Outlined version ∧ resolve isBoundary settings version changes text =
      cutOut isBoundary version changes text) := by
  unfold resolve
  simp only
  split
  · exact Or.inl ⟨_, rfl⟩
  · split
    · exact Or.inl ⟨_, rfl⟩
    next outlined =>
      split
      · exact Or.inl ⟨_, rfl⟩
      · refine Or.inr ⟨?_, rfl⟩
        simp only [Bool.and_eq_true, List.isEmpty_iff, decide_eq_true_eq, not_and] at outlined
        by_cases none : version.outline = []
        · exact Or.inr (Nat.eq_zero_of_not_pos (outlined none))
        · exact Or.inl none

/-- A resolution into windows. -/
structure Windowed (windows : List LineRange) (swallowed : List Chunk) (resolution : Resolution) :
    Prop where
  scope : resolution.scope = .windows windows
  settled : Windows.Settled (cuts isBoundary version changes text)
    (firstWindows version changes text) (moved version changes) windows resolution.survivors swallowed
  invalidated : resolution.invalidated =
    (touched version changes).map (Invalidated.ofPrior changes)
      ++ swallowed.map Invalidated.atOwnPlace
  outlined : Outlined version

variable {version} in
theorem windowed_cutOut (outlined : Outlined version) :
    Windowed isBoundary version changes text (found isBoundary version changes text).windows
      (found isBoundary version changes text).swallowed (cutOut isBoundary version changes text) :=
  ⟨rfl, Windows.settled_settle _ _ _, rfl, outlined⟩

theorem resolve_cases :
    (∃ reason, resolve isBoundary settings version changes text =
      full version.chunks changes reason) ∨
    ∃ windows swallowed, Windowed isBoundary version changes text windows swallowed
      (resolve isBoundary settings version changes text) := by
  rcases resolve_eq isBoundary settings version changes text with all | ⟨outlined, some⟩
  · exact Or.inl all
  · rw [some]
    exact Or.inr ⟨_, _, windowed_cutOut isBoundary changes text outlined⟩

variable {isBoundary settings version changes text}

/-! ### Nothing gets lost -/

theorem bearers_ofPrior (chunks : List Chunk) :
    ((chunks.map (Invalidated.ofPrior changes)).map Invalidated.chunk).map Chunk.bearer =
      chunks.map Chunk.bearer := by
  rw [List.map_map, List.map_map]
  rfl

/-- Each chunk of the version is a survivor or among the dropped ones. -/
theorem Windowed.bearers_perm {windows : List LineRange} {swallowed : List Chunk}
    {resolution : Resolution}
    (windowed : Windowed isBoundary version changes text windows swallowed resolution) :
    (version.chunks.map Chunk.bearer).Perm
      ((resolution.survivors ++ resolution.invalidated.map Invalidated.chunk).map Chunk.bearer) := by
  have movedBearers : (moved version changes).map Chunk.bearer =
      (version.chunks.filter (!isTouched changes ·.span)).map Chunk.bearer := by
    rw [moved, List.map_map]
    rfl
  rw [windowed.invalidated, List.map_append, List.map_append, List.map_append, bearers_ofPrior,
    Invalidated.map_chunk_atOwnPlace]
  have parts : (version.chunks.map Chunk.bearer).Perm
      ((touched version changes).map Chunk.bearer ++ (moved version changes).map Chunk.bearer) := by
    rw [movedBearers, touched, ← List.map_append]
    exact (List.filter_append_perm _ version.chunks).symm.map _
  refine parts.trans ?_
  have swept := windowed.settled.permutation.symm.map Chunk.bearer
  rw [List.map_append] at swept
  refine (List.Perm.append_left _ swept).trans ?_
  rw [← List.append_assoc, ← List.append_assoc]
  exact .append_right _ List.perm_append_comm

end Resolution

end Chunking
