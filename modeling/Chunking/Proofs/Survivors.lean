/-
What becomes of a survivor. It is one chunk of the old version and nothing but
its lines has changed: all of them have moved by what the changes in front of
them added and removed. It stands on the same rows as before, and behind the same
row, which is all that its digest and its score were read off. So what is known
about it need not be found out again.
-/

import Chunking.Proofs.Contents
import Mathlib.Data.List.Nodup

namespace Chunking

/-! ### How far lines move -/

namespace Changes

/-- How many lines the changes in front of an old line have on one side, given how many each of them
has there. -/
def linesBefore (side : LineChange → Nat) (changes : List LineChange) (line : Nat) : Nat :=
  ((changes.filter (·.old.stop ≤ line)).map side).foldr (· + ·) 0

/-- How many lines are put in by the changes in front of an old line. -/
def addedBefore : List LineChange → Nat → Nat :=
  linesBefore (·.new.size)

/-- How many lines are taken out by the changes in front of an old line. -/
def removedBefore : List LineChange → Nat → Nat :=
  linesBefore (·.old.size)

variable {side : LineChange → Nat} {change : LineChange} {rest : List LineChange} {line : Nat}

theorem linesBefore_cons_of_le (before : change.old.stop ≤ line) :
    linesBefore side (change :: rest) line = side change + linesBefore side rest line := by
  rw [linesBefore, List.filter_cons_of_pos (by simpa using before), List.map_cons, List.foldr_cons,
    linesBefore]

theorem linesBefore_of_lt {changes : List LineChange}
    (behind : ∀ change ∈ changes, line < change.old.stop) : linesBefore side changes line = 0 := by
  have none : changes.filter (·.old.stop ≤ line) = [] :=
    List.filter_eq_nil_iff.mpr fun change member => by simpa using behind change member
  rw [linesBefore, none, List.map_nil, List.foldr_nil]

end Changes

/-- A line moves by the difference between what was put in and what was taken out in front of it. -/
theorem EditScript.deltaAt_eq {oldAt newAt : Nat} {changes : List LineChange} {old new : List String}
    (script : EditScript oldAt newAt changes old new) (oldSmall : old.length < Word.signedLimit)
    (newSmall : new.length < Word.signedLimit) (line : Nat) :
    Changes.deltaAt changes line =
      Changes.addedBefore changes line - Changes.removedBefore changes line := by
  induction script with
  | done => rfl
  | @change oldAt newAt kept removed added changes old new rest inductionHypothesis =>
    simp only [List.length_append] at oldSmall newSmall
    by_cases before : oldAt + kept.length + removed.length ≤ line
    · have later := inductionHypothesis (by omega) (by omega)
      rw [Changes.deltaAt_cons_of_le before, LineChange.delta_of_lt, later, Changes.addedBefore,
        Changes.removedBefore, Changes.linesBefore_cons_of_le before,
        Changes.linesBefore_cons_of_le before]
      · omega
      · simp only [LineRange.size]
        omega
      · simp only [LineRange.size]
        omega
    · have behind : ∀ change ∈ (⟨⟨oldAt + kept.length, oldAt + kept.length + removed.length⟩,
          ⟨newAt + kept.length, newAt + kept.length + added.length⟩⟩ : LineChange) :: changes,
          line < change.old.stop := by
        refine List.forall_mem_cons.mpr ⟨Nat.lt_of_not_le before, fun change member => ?_⟩
        have bounds := rest.old_bounds member
        omega
      rw [Changes.deltaAt_of_lt behind, Changes.addedBefore, Changes.removedBefore,
        Changes.linesBefore_of_lt behind, Changes.linesBefore_of_lt behind]
      rfl

/-! ### Survivors -/

/-- A chunk of the old text is carried over to the new one. -/
structure CarriedOver (changes : List LineChange) (old new : LineIndex) (chunk survivor : Chunk) :
    Prop where
  /-- Nothing but the lines is different. -/
  same : survivor = { chunk with span := survivor.span }
  startLine : (survivor.span.startLine : Int) = chunk.span.startLine +
    Changes.addedBefore changes (chunk.span.startLine - 1) -
    Changes.removedBefore changes (chunk.span.startLine - 1)
  endLine : (survivor.span.endLine : Int) = chunk.span.endLine +
    Changes.addedBefore changes (chunk.span.startLine - 1) -
    Changes.removedBefore changes (chunk.span.startLine - 1)
  rows : (new.rows.drop (survivor.span.startLine - 1)).take survivor.span.size =
    (old.rows.drop (chunk.span.startLine - 1)).take chunk.span.size
  digest : survivor.Matches new
  /-- The row in front is the same, if there is one in either text. -/
  preceding : (survivor.span.startLine = 1 ∧ chunk.span.startLine = 1) ∨
    (1 < survivor.span.startLine ∧ 1 < chunk.span.startLine ∧
      new.rows[survivor.span.startLine - 2]? = old.rows[chunk.span.startLine - 2]?)
  signals : ∀ draft : Draft, draft.span = chunk.span → ∀ language,
    Signals.inspect { draft with span := survivor.span } language new.lines =
      Signals.inspect draft language old.lines

namespace Resolution

variable {isBoundary : Option String → String → Bool} {version : Version}
  {changes : List LineChange} {old new : LineIndex} {windows : List LineRange}
  {swallowed : List Chunk} {resolution : Resolution}

/-- A chunk that no change touches and no window overlaps is carried over to its new place. -/
theorem Windowed.carriedOver
    (windowed : Windowed isBoundary version changes new windows swallowed resolution)
    (script : EditScript 0 0 changes old.rows new.rows) (oldSmall : old.size < Word.signedLimit)
    (newSmall : new.size < Word.signedLimit) {chunk : Chunk} (matching : chunk.Matches old)
    (untouched : isTouched changes chunk.span = false)
    (outside : ∀ window ∈ windows,
      window.overlaps (Changes.shiftSpan changes chunk.span).toRange = false) :
    CarriedOver changes old new chunk
      { chunk with span := Changes.shiftSpan changes chunk.span } := by
  have fits := matching.fits
  obtain ⟨place, carried, echo⟩ :=
    windowed.echo_shiftSpan script oldSmall newSmall fits untouched outside
  have text := LineIndex.spanText?_shiftSpan script oldSmall newSmall fits untouched
  have stops : place + chunk.span.size ≤ new.size := carried.stop_le fits
  have moved := (carried 0 fits.size_pos).moved
  rw [script.deltaAt_eq oldSmall newSmall, Nat.add_zero, Nat.add_zero] at moved
  have shifted := carried.shiftSpan_eq fits oldSmall newSmall
  have size : chunk.span.size = chunk.span.endLine + 1 - chunk.span.startLine := rfl
  obtain ⟨positive, proper, _⟩ := fits
  refine ⟨rfl, ?_, ?_, ?_, ?_, ?_, ?_⟩
  · rw [shifted]
    dsimp only
    omega
  · rw [shifted]
    dsimp only
    omega
  · rw [shifted, Nat.add_sub_cancel, show Span.size ⟨place + 1, place + chunk.span.size⟩ =
      chunk.span.size by simp only [Span.size]; omega]
    exact KeptLine.rows_eq carried
  · rw [Chunk.Matches, LineIndex.spanDigest?, text]
    exact matching
  · rw [shifted]
    rcases echo.before with ⟨first, oldFirst⟩ | ⟨later, oldLater, kept⟩
    · left
      dsimp only at first ⊢
      omega
    · right
      have row := kept.row
      dsimp only at later row ⊢
      refine ⟨by omega, by omega, ?_⟩
      rw [Nat.sub_zero, Nat.sub_zero] at row
      exact row
  · intro draft same language
    have alike := echo.inspect_eq (Nat.lt_add_of_pos_right matching.fits.size_pos) stops draft language
    simp only [Nat.add_sub_cancel_left, matching.fits.mk_eq] at alike
    rw [shifted, alike, ← same]

/-- Each survivor is one chunk of the old version carried over, and no chunk is carried over twice or
past another one. -/
theorem survivors_carriedOver (isBoundary : Option String → String → Bool) (settings : Settings)
    (version : Version) (changes : List LineChange) (old new : String)
    (valid : version.validate (some old) = .ok ()) (script : IsEditScript changes old new)
    (oldSmall : (LineIndex.ofText old).size < Word.signedLimit)
    (newSmall : (LineIndex.ofText new).size < Word.signedLimit) :
    let resolution := resolve isBoundary settings version changes (.ofText new)
    (resolution.survivors.map Chunk.id).Sublist version.ids ∧
      ∀ survivor ∈ resolution.survivors,
        ∃! chunk, chunk ∈ version.chunks ∧
          CarriedOver changes (.ofText old) (.ofText new) chunk survivor := by
  intro resolution
  have rules := Version.validate_eq_ok.mp valid
  rcases resolve_cases isBoundary settings version changes (.ofText new) with
    ⟨reason, all⟩ | ⟨windows, swallowed, windowed⟩
  · have none : resolution.survivors = [] := congrArg Resolution.survivors all
    rw [none]
    exact ⟨List.nil_sublist _, fun _ member => absurd member List.not_mem_nil⟩
  · refine ⟨?_, fun survivor member => ?_⟩
    · have ids : (moved version changes).map Chunk.id =
          (version.chunks.filter (!isTouched changes ·.span)).map Chunk.id := by
        rw [moved, List.map_map]
        rfl
      have kept := windowed.settled.sublist.map Chunk.id
      rw [ids] at kept
      exact kept.trans (List.filter_sublist.map Chunk.id)
    · have matching : ∀ chunk ∈ version.chunks, chunk.Matches (.ofText old) := rules.digests
      obtain ⟨chunk, listed, untouched, rfl, outside⟩ :=
        (windowed.mem_survivors script oldSmall newSmall
          fun chunk listed => (matching chunk listed).fits).mp member
      refine ⟨chunk, ⟨listed, ?_⟩, ?_⟩
      · exact windowed.carriedOver script oldSmall newSmall (matching chunk listed) untouched outside
      · -- Another chunk would have the same id.
        rintro other ⟨otherListed, carried⟩
        have sameId : other.id = chunk.id := (congrArg Chunk.id carried.same).symm
        exact List.inj_on_of_nodup_map rules.distinct otherListed listed sameId

/-- Two of three lines survive a line that is put in front of the first. -/
theorem survivors_carriedOver_addedLine :
    let old := LineIndex.ofText "a\nb\nc\n"
    let chunk (id : String) (line : Nat) : Chunk :=
      { id, kind := .function, name := id, span := ⟨line, line⟩
        contentHash := (old.spanDigest? line line).getD "", confidence := .ofPattern 0 }
    let version : Version :=
      { file := "notes", language := .python, textHash := "", lineCount := 3
        chunks := [chunk "first" 1, chunk "second" 2, chunk "third" 3]
        outline := [⟨1, 1⟩, ⟨2, 2⟩, ⟨3, 3⟩] }
    let changes : List LineChange := [⟨⟨0, 0⟩, ⟨0, 1⟩⟩]
    let resolution := resolve (fun _ _ => true) default version changes (.ofText "x\na\nb\nc\n")
    resolution.survivors.map (fun survivor => (survivor.id, survivor.span)) =
        [("second", ⟨3, 3⟩), ("third", ⟨4, 4⟩)] ∧
      ∀ survivor ∈ resolution.survivors,
        ∃! chunk, chunk ∈ version.chunks ∧
          CarriedOver changes old (.ofText "x\na\nb\nc\n") chunk survivor := by
  intro old chunk version changes resolution
  have oldRows : (LineIndex.ofText "a\nb\nc\n").rows = ["a\n", "b\n", "c\n"] := by decide
  have newRows : (LineIndex.ofText "x\na\nb\nc\n").rows = ["x\n", "a\n", "b\n", "c\n"] := by decide
  have script : IsEditScript changes "a\nb\nc\n" "x\na\nb\nc\n" := by
    rw [IsEditScript, oldRows, newRows]
    exact .change [] [] ["x\n"] (.done _ _ _)
  have carried := survivors_carriedOver (fun _ _ => true) default version changes "a\nb\nc\n"
    "x\na\nb\nc\n" (by decide +kernel) script (by decide) (by decide)
  exact ⟨by decide +kernel, carried.2⟩

end Resolution

end Chunking
