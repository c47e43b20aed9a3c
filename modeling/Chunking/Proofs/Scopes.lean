/-
What can be relied on in the scope of an edit, even if the changes contradict each
other or lie outside of the text. The search for windows comes to an end without a
look beyond the text; every chunk is carried over or dropped, but not both and not
twice; and windows are cut out of the text in such a way that they can be parsed
on their own, with all lines around the changes in them and no survivor near.
-/

import Chunking.Proofs.Resolution
import Chunking.Proofs.Searches

namespace Chunking

namespace Resolution

/-! ### Every chunk once -/

/-- A chunk at the place where its lines go. -/
def placed (changes : List LineChange) (chunk : Chunk) : Chunk :=
  { chunk with span := Changes.shiftSpan changes chunk.span }

/-- What is remembered of a chunk that is dropped: the chunk as it was, with a guess at its place, or
the chunk where it would be now. -/
def IsDropped (changes : List LineChange) (chunk : Chunk) (entry : Invalidated) : Prop :=
  entry = .ofPrior changes chunk ∨ entry = .atOwnPlace (placed changes chunk)

/-- Each of the chunks is either carried over or dropped, and just once. -/
def Accounted (chunks : List Chunk) (changes : List LineChange) (resolution : Resolution) : Prop :=
  ∃ kept dropped, chunks.Perm (kept ++ dropped) ∧
    resolution.survivors = kept.map (placed changes) ∧
    List.Forall₂ (IsDropped changes) dropped resolution.invalidated

theorem forall₂_ofPrior (changes : List LineChange) (chunks : List Chunk) :
    List.Forall₂ (IsDropped changes) chunks (chunks.map (.ofPrior changes)) :=
  List.forall₂_map_right_iff.mpr (List.forall₂_same.mpr fun _ _ => Or.inl rfl)

theorem accounted_full (chunks : List Chunk) (changes : List LineChange) (reason : Escalation) :
    Accounted chunks changes (full chunks changes reason) :=
  ⟨[], chunks, .refl _, rfl, forall₂_ofPrior changes chunks⟩

/-- A rearrangement of values of a function comes from one of its arguments. -/
theorem exists_perm_of_perm_map {α β : Type} {values : List β} {arguments : List α} {value : α → β}
    (permutation : values.Perm (arguments.map value)) :
    ∃ order : List α, order.Perm arguments ∧ values = order.map value := by
  have related : List.Forall₂ (fun result argument => result = value argument)
      (arguments.map value) arguments :=
    List.forall₂_map_left_iff.mpr (List.forall₂_same.mpr fun _ _ => rfl)
  obtain ⟨order, images, rearranged⟩ := List.perm_comp_forall₂ permutation related
  refine ⟨order, rearranged, ?_⟩
  rw [← List.forall₂_eq_eq_eq, List.forall₂_map_right_iff]
  exact images

variable {isBoundary : Option String → String → Bool} {settings : Settings} {version : Version}
  {changes : List LineChange} {text : LineIndex} {windows : List LineRange}
  {swallowed : List Chunk} {resolution : Resolution}

theorem Windowed.accounted
    (windowed : Windowed isBoundary version changes text windows swallowed resolution) :
    Accounted version.chunks changes resolution := by
  obtain ⟨order, rearranged, images⟩ : ∃ order : List Chunk,
      order.Perm (version.chunks.filter (!isTouched changes ·.span)) ∧
        resolution.survivors ++ swallowed = order.map (placed changes) :=
    exists_perm_of_perm_map windowed.settled.permutation
  obtain ⟨kept, gone, rfl, survivors, rest⟩ := List.map_eq_append_iff.mp images.symm
  refine ⟨kept, touched version changes ++ gone, ?_, survivors.symm, ?_⟩
  · calc List.Perm version.chunks
          (touched version changes ++ version.chunks.filter (!isTouched changes ·.span)) :=
        (List.filter_append_perm _ version.chunks).symm
      List.Perm _ (touched version changes ++ (kept ++ gone)) := rearranged.symm.append_left _
      List.Perm _ (kept ++ (touched version changes ++ gone)) := by
        rw [← List.append_assoc, ← List.append_assoc]
        exact List.perm_append_comm.append_right gone
  · rw [windowed.invalidated, ← rest, List.map_map]
    refine List.rel_append (forall₂_ofPrior changes _) ?_
    exact List.forall₂_map_right_iff.mpr (List.forall₂_same.mpr fun _ _ => Or.inr rfl)

/-! ### Scopes -/

/-- The lines around a change inside of the text are in one window. -/
theorem Windowed.holds_around
    (windowed : Windowed isBoundary version changes text windows swallowed resolution)
    {change : LineChange} (member : change ∈ changes) (some : 0 < text.size)
    (proper : change.new.start ≤ change.new.stop) (inside : change.new.stop ≤ text.size) :
    ∃ window ∈ windows,
      window.Contains ⟨change.new.start - 1, min (change.new.stop + 1) text.size⟩ := by
  have listed : around text.size change ∈ firstWindows version changes text := by
    rw [firstWindows, LineIndex.length_lines]
    exact List.mem_append_right _ (List.mem_map_of_mem member)
  have starts : (around text.size change).start = change.new.start - 1 :=
    Nat.min_eq_left (by omega)
  have stops : min (around text.size change).stop text.size = min (change.new.stop + 1) text.size :=
    Nat.min_eq_left (Nat.min_le_right _ _)
  obtain ⟨window, among, contains⟩ := windowed.settled.holdsWindow _ listed (by
    rw [size_cuts, starts, stops]
    omega)
  rw [size_cuts, starts, stops] at contains
  exact ⟨window, among, contains⟩

/-- Windows as they are cut out of a text beside survivors. -/
structure CutOut (isBoundary : Option String → String → Bool) (version : Version)
    (changes : List LineChange) (text : LineIndex) (survivors : List Chunk)
    (windows : List LineRange) : Prop where
  /-- They are not empty and not adjacent, lie in order inside of the text, and start and end where
  windows may do so. -/
  fair : Windows.Fair (cuts isBoundary version changes text) windows
  apart : ∀ survivor ∈ survivors, ∀ window ∈ windows, window.overlaps survivor.span.toRange = false
  /-- A change inside of the text is in one window with the lines before and behind it. -/
  around : 0 < text.size → ∀ change ∈ changes, change.new.start ≤ change.new.stop →
    change.new.stop ≤ text.size → ∃ window ∈ windows,
      window.Contains ⟨change.new.start - 1, min (change.new.stop + 1) text.size⟩

/-- What can be relied on in a resolution. -/
structure Sound (isBoundary : Option String → String → Bool) (version : Version)
    (changes : List LineChange) (text : LineIndex) (resolution : Resolution) : Prop where
  /-- The search is over after finitely many steps, each of which looks only at lines of the text. -/
  search : ∃ table, (cuts isBoundary version changes text).table? = some table ∧
    Windows.Closes (cuts isBoundary version changes text) table (firstWindows version changes text)
      (moved version changes) [] (found isBoundary version changes text)
  accounted : Accounted version.chunks changes resolution
  full : ∀ reason, resolution.scope = .full reason →
    resolution.survivors = [] ∧ resolution.invalidated = version.chunks.map (.ofPrior changes)
  windows : ∀ windows, resolution.scope = .windows windows →
    windows = (found isBoundary version changes text).windows ∧
      resolution.survivors = (found isBoundary version changes text).kept ∧
      CutOut isBoundary version changes text resolution.survivors windows

/-- Whatever the version, the changes and the text are, the resolution can be relied on. -/
theorem resolve_sound (isBoundary : Option String → String → Bool) (settings : Settings)
    (version : Version) (changes : List LineChange) (text : LineIndex) :
    Sound isBoundary version changes text (resolve isBoundary settings version changes text) := by
  obtain ⟨table, traced, entries⟩ := (cuts isBoundary version changes text).table?_eq_some
  have closes := Windows.closes_settle entries (firstWindows version changes text)
    (moved version changes)
  rcases resolve_eq isBoundary settings version changes text with ⟨reason, all⟩ | ⟨outlined, some⟩
  · rw [all]
    refine ⟨⟨table, traced, closes⟩, accounted_full _ _ _, fun _ _ => ⟨rfl, rfl⟩, ?_⟩
    rintro windows ⟨⟩
  · rw [some]
    have windowed := windowed_cutOut isBoundary changes text outlined
    refine ⟨⟨table, traced, closes⟩, windowed.accounted, ?_, ?_⟩
    · rintro reason ⟨⟩
    · rintro _ ⟨⟩
      refine ⟨rfl, rfl, windowed.settled.fair, windowed.settled.apart, ?_⟩
      exact fun nonempty change member => windowed.holds_around member nonempty

end Resolution

end Chunking
