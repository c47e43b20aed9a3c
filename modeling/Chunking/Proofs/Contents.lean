/-
What a draft in a text comes to, apart from its id: its digest and its score are
read off its lines and the line before them. Outside of windows, all of these
lines come from the old text, so a chunk that survives an edit is just what would
be made of its draft in the new text. Together with the constructs found in the
windows, survivors are what would be made of all the drafts of the new text.
-/

import Chunking.Proofs.Outlines
import Chunking.Proofs.Splicing
import Chunking.Proofs.Validity

namespace Chunking

/-- The chunk that a draft in a text becomes, except for its id. -/
def Draft.contents (language : Language) (text : LineIndex) (draft : Draft) : Chunk :=
  FreshChunk.toChunk
    { draft
      contentHash := (text.spanDigest? draft.span.startLine draft.span.endLine).getD ""
      confidence := (Signals.inspect draft language text.lines).score draft.rawConfidence } ""

theorem Draft.contents_matches {text : LineIndex} {draft : Draft} (fits : draft.span.Fits text.size)
    (language : Language) : (draft.contents language text).Matches text := by
  obtain ⟨digest, found⟩ := Option.isSome_iff_exists.mp (LineIndex.spanDigest?_isSome fits)
  simp only [Chunk.Matches, contents, FreshChunk.toChunk, found, Option.getD_some]

theorem Job.map_toChunk_freshChunks {job : Job} {drafts : List Draft}
    (fit : ∀ draft ∈ drafts, draft.span.Fits job.index.size) :
    (job.freshChunks drafts).map (·.toChunk "") =
      drafts.map (Draft.contents job.language job.index) := by
  unfold freshChunks
  simp only
  rw [List.map_filterMap, ← List.filterMap_eq_map]
  refine List.filterMap_congr fun draft member => ?_
  obtain ⟨digest, found⟩ := Option.isSome_iff_exists.mp
    (LineIndex.spanDigest?_isSome (fit draft member))
  simp only [Function.comp_apply, Draft.contents, found, Option.map_some, Option.getD_some]

/-! ### Stretches from the old text -/

namespace Echo

variable {changes : List LineChange} {old new : LineIndex} {range : LineRange} {line : Nat}
  (echo : Echo changes old.rows new.rows range line)

include echo

theorem lines_eq : (new.lines.drop range.start).take (range.stop - range.start) =
    (old.lines.drop line).take (range.stop - range.start) := by
  rw [LineIndex.lines, LineIndex.lines, ← List.map_drop, ← List.map_take, KeptLine.rows_eq echo.kept,
    List.map_take, List.map_drop]

theorem preceding_eq : (if range.start = 0 then none else new.lines[range.start - 1]?) =
    if line = 0 then none else old.lines[line - 1]? := by
  rcases echo.before with ⟨first, oldFirst⟩ | ⟨later, oldLater, kept⟩
  · rw [if_pos first, if_pos oldFirst]
  · have row := kept.row
    rw [Nat.sub_zero, Nat.sub_zero] at row
    rw [if_neg (by omega), if_neg (by omega), LineIndex.lines, LineIndex.lines, List.getElem?_map,
      List.getElem?_map, row]

variable (nonempty : range.start < range.stop) (inside : range.stop ≤ new.size)

include nonempty inside

/-- All that a score depends on is in the stretch or next to it. -/
theorem inspect_eq (draft : Draft) (language : Language) :
    Signals.inspect { draft with span := ⟨range.start + 1, range.stop⟩ } language new.lines =
      Signals.inspect { draft with span := ⟨line + 1, line + (range.stop - range.start)⟩ } language
        old.lines := by
  have oldInside : line + (range.stop - range.start) ≤ old.size := echo.stop_le nonempty
  unfold Signals.inspect
  simp only [LineIndex.length_lines, Nat.add_sub_cancel]
  rw [Nat.min_eq_left (show range.start ≤ new.size by omega),
    Nat.min_eq_left (show line ≤ old.size by omega), Nat.min_eq_left inside,
    Nat.min_eq_left oldInside, Nat.max_eq_left (show range.start ≤ range.stop by omega),
    Nat.max_eq_left (Nat.le_add_right _ _), Nat.add_sub_cancel_left, echo.lines_eq,
    echo.preceding_eq]

theorem contents_eq (draft : Draft) (language : Language) :
    Draft.contents language new { draft with span := ⟨range.start + 1, range.stop⟩ } =
      { Draft.contents language old
          { draft with span := ⟨line + 1, line + (range.stop - range.start)⟩ } with
        span := ⟨range.start + 1, range.stop⟩ } := by
  have oldInside : line + (range.stop - range.start) ≤ old.size := echo.stop_le nonempty
  have digest : new.spanDigest? (range.start + 1) range.stop =
      old.spanDigest? (line + 1) (line + (range.stop - range.start)) := by
    rw [LineIndex.spanDigest?, LineIndex.spanDigest?, LineIndex.spanText?, LineIndex.spanText?,
      if_neg (by omega), if_neg (by omega), LineIndex.slice, LineIndex.slice, Nat.add_sub_cancel,
      Nat.add_sub_cancel, Nat.add_sub_cancel_left, KeptLine.rows_eq echo.kept]
  simp only [Draft.contents, echo.inspect_eq nonempty inside, digest, FreshChunk.toChunk]

end Echo

/-! ### Survivors -/

namespace Resolution

variable {isBoundary : Option String → String → Bool} {version : Version}
  {changes : List LineChange} {old new : LineIndex} {windows : List LineRange}
  {swallowed : List Chunk} {resolution : Resolution}
  (windowed : Windowed isBoundary version changes new windows swallowed resolution)
  (script : EditScript 0 0 changes old.rows new.rows) (oldSmall : old.size < Word.signedLimit)
  (newSmall : new.size < Word.signedLimit)

include windowed script oldSmall newSmall

/-- A span that stays stands behind the same line of the new text as of the old one. -/
theorem Windowed.echo_shiftSpan {span : Span} (fits : span.Fits old.size)
    (untouched : isTouched changes span = false)
    (outside : ∀ window ∈ windows,
      window.overlaps (Changes.shiftSpan changes span).toRange = false) :
    ∃ place, Carried changes old.rows new.rows span place ∧
      Echo changes old.rows new.rows ⟨place, place + span.size⟩ (span.startLine - 1) := by
  obtain ⟨place, carried⟩ := script.carried oldSmall newSmall fits untouched
  rw [carried.shiftSpan_eq fits oldSmall newSmall] at outside
  have nonempty : place < place + span.size := Nat.lt_add_of_pos_right fits.size_pos
  obtain ⟨line, echo⟩ : ∃ line, Echo changes old.rows new.rows ⟨place, place + span.size⟩ line :=
    windowed.echo script oldSmall newSmall nonempty (carried.stop_le fits) outside
  have same : span.startLine - 1 = line :=
    (carried 0 fits.size_pos).line_unique (echo.kept 0 (Nat.sub_pos_of_lt nonempty))
  exact ⟨place, carried, same ▸ echo⟩

/-- A draft that stays comes to the same in both texts. -/
theorem Windowed.contents_shift {draft : Draft} (fits : draft.span.Fits old.size)
    (untouched : isTouched changes draft.span = false)
    (outside : ∀ window ∈ windows,
      window.overlaps (Changes.shiftSpan changes draft.span).toRange = false) (language : Language) :
    Draft.contents language new { draft with span := Changes.shiftSpan changes draft.span } =
      { draft.contents language old with span := Changes.shiftSpan changes draft.span } := by
  obtain ⟨place, carried, echo⟩ :=
    windowed.echo_shiftSpan script oldSmall newSmall fits untouched outside
  have moved := echo.contents_eq (Nat.lt_add_of_pos_right fits.size_pos) (carried.stop_le fits) draft
    language
  rw [carried.shiftSpan_eq fits oldSmall newSmall]
  simp only [Nat.add_sub_cancel_left, fits.mk_eq] at moved
  exact moved

/-- The survivors are the chunks that no change touches and no window overlaps, at their places in
the new text. -/
theorem Windowed.mem_survivors (fit : ∀ chunk ∈ version.chunks, chunk.span.Fits old.size)
    {survivor : Chunk} : survivor ∈ resolution.survivors ↔
      ∃ chunk ∈ version.chunks, isTouched changes chunk.span = false ∧
        { chunk with span := Changes.shiftSpan changes chunk.span } = survivor ∧
        ∀ window ∈ windows, window.overlaps survivor.span.toRange = false := by
  constructor
  · intro member
    obtain ⟨chunk, among, same⟩ := List.mem_map.mp (windowed.settled.sublist.subset member)
    obtain ⟨listed, untouched⟩ := List.mem_filter.mp among
    exact ⟨chunk, listed, by simpa using untouched, same, windowed.settled.apart survivor member⟩
  · rintro ⟨chunk, listed, untouched, rfl, outside⟩
    have among : { chunk with span := Changes.shiftSpan changes chunk.span } ∈
        moved version changes :=
      List.mem_map_of_mem (List.mem_filter.mpr ⟨listed, by simpa using untouched⟩)
    rcases List.mem_append.mp (windowed.settled.permutation.symm.subset among) with kept | gone
    · exact kept
    · -- A window has grown over every chunk that was swallowed.
      have fits := fit chunk listed
      obtain ⟨place, carried⟩ := script.carried oldSmall newSmall fits untouched
      have stops : place + chunk.span.size ≤ new.size := carried.stop_le fits
      have shifted := carried.shiftSpan_eq fits oldSmall newSmall
      have proper := fits.2.1
      obtain ⟨larger, largerMember, contains⟩ := windowed.settled.holdsSwallowed _ gone (by
        rw [size_cuts]
        simp only [shifted, Span.toRange, Span.size] at stops ⊢
        omega)
      have away := LineRange.overlaps_eq_false.mp (outside larger largerMember)
      rw [size_cuts] at contains
      simp only [shifted, LineRange.Contains, Span.toRange, Span.size] at contains away stops
      omega

end Resolution

/-! ### Windows -/

namespace Engine.FoundIn

variable {job : Job} {windows : List LineRange} {found : WindowFindings}
  (foundIn : FoundIn job windows found)

include foundIn

theorem reparsed_draft {draft : Draft} :
    Reparsed job.processor job.index windows (.ofDraft draft) ↔ draft ∈ found.drafts := by
  rw [foundIn.drafts]
  simp only [Reparsed, Extraction.has_draft_offset]

theorem reparsed_node {node : Span} :
    Reparsed job.processor job.index windows (.ofNode node) ↔ node ∈ found.outline := by
  rw [foundIn.outline]
  simp only [Reparsed, Extraction.has_node_offset]

/-- What is found in one window after another is in a row. -/
theorem row (tidy : job.processor.Tidy) (inside : ∀ window ∈ windows, window.stop ≤ job.index.size)
    (separated : windows.Pairwise (·.stop < ·.start)) :
    found.drafts.Pairwise fun left right => left.span.Before right.span := by
  induction foundIn with
  | nil => exact .nil
  | @cons window windows found extraction processed rest inductionHypothesis =>
    rw [List.forall_mem_cons] at inside
    rw [List.pairwise_cons] at separated
    obtain ⟨fit, ordered⟩ := tidy processed
    refine List.pairwise_append.mpr ⟨List.pairwise_map.mpr ?_,
      inductionHypothesis inside.2 separated.2, fun draft member other otherMember => ?_⟩
    · exact ordered.imp fun before => Nat.add_lt_add_right before window.start
    · obtain ⟨inner, among, rfl⟩ := List.mem_map.mp member
      obtain ⟨later, laterMember, otherFound, otherProcessed, otherInner, otherAmong, rfl⟩ :=
        (rest.drafts other).mp otherMember
      have here := (Span.fits_offset inside.1 (fit inner among)).2.2
      have there := (Span.fits_offset (inside.2 later laterMember)
        ((tidy otherProcessed).1 otherInner otherAmong)).2.1
      have apart := separated.1 later laterMember
      simp only [Span.Before, Draft.offset]
      omega

end Engine.FoundIn

/-! ### Merging -/

/-- The chunks of a merge are known, except for their ids, by what survivors and constructs come
to. -/
theorem Merge.map_withoutId_merge {policy : Policy} {survivors : List Chunk}
    {fresh : List FreshChunk} {invalidated : List Invalidated} {lineage : Lineage}
    {changes : List LineChange} {contents : List Chunk}
    (old : survivors.Pairwise fun left right => left.span.Before right.span)
    (oldProper : ∀ chunk ∈ survivors, chunk.span.startLine ≤ chunk.span.endLine)
    (newProper : ∀ construct ∈ fresh, construct.span.startLine ≤ construct.span.endLine)
    (whole : FreshChunk.dropOverlapping fresh = fresh)
    (apart : ∀ chunk ∈ survivors, ∀ construct ∈ fresh, construct.span.overlaps chunk.span = false)
    (row : contents.Pairwise fun left right => left.span.Before right.span)
    (same : ∀ chunk, chunk ∈ contents ↔
      chunk ∈ survivors.map Chunk.withoutId ∨ chunk ∈ fresh.map (·.toChunk "")) :
    (merge policy survivors fresh invalidated lineage changes).chunks.map Chunk.withoutId =
      contents := by
  have merged : (merge policy survivors fresh invalidated lineage changes).chunks.Pairwise
      fun left right => left.span.Before right.span :=
    merge_row (old.imp Span.Before.overlaps) oldProper newProper
  have spared : kept survivors fresh = survivors := by
    refine List.filter_eq_self.mpr fun chunk member => ?_
    simp only [displaces, whole, Bool.not_eq_true', List.any_eq_false, Bool.not_eq_true]
    exact apart chunk member
  obtain ⟨given, givenContents, _, chunks⟩ :=
    merge_chunks policy survivors fresh invalidated lineage changes
  rw [whole] at givenContents
  have members : ∀ chunk,
      chunk ∈ (merge policy survivors fresh invalidated lineage changes).chunks.map Chunk.withoutId ↔
        chunk ∈ contents := by
    intro chunk
    rw [same, chunks, spared, ← givenContents]
    simp only [List.mem_map, List.mem_mergeSort, List.mem_append, or_and_right, exists_or]
  refine eq_of_row (fun chunk member => ?_) (List.pairwise_map.mpr merged) row members
  rcases (same chunk).mp ((members chunk).mp member) with survives | new
  · obtain ⟨survivor, among, rfl⟩ := List.mem_map.mp survives
    exact oldProper survivor among
  · obtain ⟨construct, among, rfl⟩ := List.mem_map.mp new
    exact newProper construct among

namespace Engine

variable (engine : Engine) {job : Job}

/-- A parse of the whole text makes chunks of all drafts. -/
theorem map_withoutId_fullMerge (prior : Option Version) (changes : List LineChange)
    {extraction : Extraction} (tidy : job.processor.Tidy)
    (processed : job.processor.process job.text .file = .ok extraction) :
    (engine.fullMerge job prior changes extraction).chunks.map Chunk.withoutId =
      extraction.drafts.map (Draft.contents job.language job.index) := by
  obtain ⟨fit, row⟩ := tidy processed
  refine Merge.map_withoutId_merge .nil (by simp)
    (fun construct member => (Job.freshChunks_match member).fits.2.1)
    (Job.dropOverlapping_freshChunks fit row) (by simp) (List.pairwise_map.mpr row) fun chunk => ?_
  rw [Job.map_toChunk_freshChunks fit, List.map_nil]
  simp only [List.not_mem_nil, false_or]

variable {items : Item → Prop} {version : Version} {changes : List LineChange} {old : String}
  {windows : List LineRange} {swallowed : List Chunk} {resolution : Resolution}
  {found : WindowFindings}

theorem mem_carryOutline_iff (foundIn : FoundIn job windows found)
    (nodes : ∀ node, items (.ofNode node) ↔ node ∈ version.outline) {node : Span} :
    node ∈ carryOutline version.outline changes windows found.outline ↔
      Found job.processor items changes job.text windows (.ofNode node) := by
  rw [mem_carryOutline, Found, ← foundIn.reparsed_node, stays_node]
  simp only [nodes]
  rfl

variable
  (splice : Splice job.processor items version changes old job.text windows swallowed resolution)
  {drafts : List Draft} (known : ∀ draft, items (.ofDraft draft) ↔ draft ∈ drafts)
  (contents : version.chunks.map Chunk.withoutId =
    drafts.map (Draft.contents job.language (.ofText old)))

include splice known contents

/-- Every chunk is what one of the drafts came to, and so it matches the text. -/
theorem exists_draft {chunk : Chunk} (member : chunk ∈ version.chunks) :
    chunk.Matches (.ofText old) ∧ ∃ draft ∈ drafts, draft.span.Fits (LineIndex.ofText old).size ∧
      draft.contents job.language (.ofText old) = chunk.withoutId := by
  have listed : chunk.withoutId ∈ version.chunks.map Chunk.withoutId := List.mem_map_of_mem member
  rw [contents] at listed
  obtain ⟨draft, among, same⟩ := List.mem_map.mp listed
  have fits := splice.fits ((known draft).mpr among)
  have matching : chunk.withoutId.Matches (.ofText old) :=
    same ▸ Draft.contents_matches fits job.language
  exact ⟨matching, draft, among, fits, same⟩

omit known contents in
/-- What a draft and its chunk come to in the new text is the same. -/
theorem contents_survivor {draft : Draft} {prior : Chunk}
    (fits : draft.span.Fits (LineIndex.ofText old).size)
    (same : draft.contents job.language (.ofText old) = prior.withoutId)
    (untouched : Resolution.isTouched changes prior.span = false)
    (outside : ∀ window ∈ windows,
      window.overlaps (Changes.shiftSpan changes prior.span).toRange = false) :
    Draft.contents job.language job.index
        { draft with span := Changes.shiftSpan changes draft.span } =
      Chunk.withoutId { prior with span := Changes.shiftSpan changes prior.span } := by
  have spans : draft.span = prior.span := congrArg Chunk.span same
  rw [← spans] at untouched outside ⊢
  refine (splice.windowed.contents_shift splice.script splice.oldSmall splice.newSmall fits untouched
    outside job.language).trans ?_
  rw [same]
  rfl

/-- Survivors are what the drafts that stay come to in the new text. -/
theorem mem_survivors_contents {chunk : Chunk} : chunk ∈ resolution.survivors.map Chunk.withoutId ↔
    ∃ draft, Stays changes windows items (.ofDraft draft) ∧
      draft.contents job.language job.index = chunk := by
  have fit : ∀ chunk ∈ version.chunks, chunk.span.Fits (LineIndex.ofText old).size :=
    fun chunk member => (exists_draft splice known contents member).1.fits
  have script : EditScript 0 0 changes (LineIndex.ofText old).rows job.index.rows := splice.script
  simp only [List.mem_map, splice.windowed.mem_survivors script splice.oldSmall splice.newSmall fit,
    stays_draft]
  constructor
  · rintro ⟨_, ⟨prior, member, untouched, rfl, outside⟩, rfl⟩
    obtain ⟨_, draft, among, fits, same⟩ := exists_draft splice known contents member
    have spans : draft.span = prior.span := congrArg Chunk.span same
    refine ⟨_, ⟨draft, (known draft).mpr among, spans ▸ untouched, rfl, spans ▸ outside⟩, ?_⟩
    exact contents_survivor splice fits same untouched outside
  · rintro ⟨_, ⟨draft, has, untouched, rfl, outside⟩, rfl⟩
    have among : draft.contents job.language (.ofText old) ∈ version.chunks.map Chunk.withoutId :=
      contents ▸ List.mem_map_of_mem ((known draft).mp has)
    obtain ⟨prior, member, same⟩ := List.mem_map.mp among
    have spans : draft.span = prior.span := congrArg Chunk.span same.symm
    have priorUntouched : Resolution.isTouched changes prior.span = false := spans ▸ untouched
    have priorOutside : ∀ window ∈ windows,
        window.overlaps (Changes.shiftSpan changes prior.span).toRange = false := spans ▸ outside
    refine ⟨_, ⟨prior, member, priorUntouched, rfl, priorOutside⟩, ?_⟩
    exact (contents_survivor splice (splice.fits has) same.symm priorUntouched priorOutside).symm

/-- A parse of windows makes chunks of all drafts that are to be found in the text. -/
theorem map_withoutId_windowMerge (foundIn : FoundIn job windows found)
    (row : drafts.Pairwise fun left right => left.span.Before right.span) {newDrafts : List Draft}
    (newFound : ∀ draft, draft ∈ newDrafts ↔
      Found job.processor items changes job.text windows (.ofDraft draft))
    (newRow : newDrafts.Pairwise fun left right => left.span.Before right.span) :
    (engine.windowMerge job version changes resolution found).chunks.map Chunk.withoutId =
      newDrafts.map (Draft.contents job.language job.index) := by
  have fair := splice.windowed.settled.fair
  have reparsed : ∀ draft ∈ found.drafts, Reparsed job.processor job.index windows (.ofDraft draft) :=
    fun draft member => foundIn.reparsed_draft.mpr member
  have fit : ∀ draft ∈ found.drafts, draft.span.Fits job.index.size :=
    fun draft member => (splice.reparsed_place (reparsed draft member)).1
  have versionRow : (version.chunks.map Chunk.withoutId).Pairwise
      fun left right => left.span.Before right.span := contents ▸ List.pairwise_map.mpr row
  rw [List.pairwise_map] at versionRow
  obtain ⟨matching, survivorRow⟩ := splice.windowed.survivors_match splice.script splice.oldSmall
    splice.newSmall (fun chunk member => (exists_draft splice known contents member).1) versionRow
  refine Merge.map_withoutId_merge survivorRow (fun chunk member => (matching chunk member).fits.2.1)
    (fun construct member => (Job.freshChunks_match member).fits.2.1)
    (Job.dropOverlapping_freshChunks fit (foundIn.row splice.compositional.tidy
      (fun window member => splice.window_stop_le member) fair.separated))
    (fun chunk member construct among => ?_) (List.pairwise_map.mpr newRow) fun chunk => ?_
  · obtain ⟨draft, listed, _, _, rfl⟩ := Job.mem_freshChunks.mp among
    obtain ⟨_, window, windowMember, starts, stops⟩ := splice.reparsed_place (reparsed draft listed)
    have away := LineRange.overlaps_eq_false.mp
      (splice.windowed.settled.apart chunk member window windowMember)
    have positive := (matching chunk member).fits.1
    rw [Span.overlaps_eq_false]
    simp only [Item.span, FreshChunk.span, Span.toRange] at starts stops away ⊢
    omega
  · rw [Job.map_toChunk_freshChunks fit, mem_survivors_contents splice known contents]
    simp only [List.mem_map, newFound, Found, or_and_right, exists_or, ← foundIn.reparsed_draft]
    rfl

end Engine

/-! ### What a version shows -/

/-- A version says what was found in a text. -/
structure Version.Shows (version : Version) (text : String) (extraction : Extraction) : Prop where
  lineCount : version.lineCount = (LineIndex.ofText text).size
  textHash : version.textHash = Digest.ofText text
  recovered : version.recovered = extraction.recovered
  chunks : version.chunks.map Chunk.withoutId =
    extraction.drafts.map (Draft.contents version.language (.ofText text))
  outline : ∀ node, node ∈ version.outline ↔ node ∈ extraction.outline
  /-- Nodes stand as they were found, or in order and without repetition. -/
  ordered : version.outline = extraction.outline ∨
    version.outline.Pairwise Span.Precedes

namespace Engine

variable {engine : Engine} {job : Job}

theorem shows_full (base : Option Version) (changes : List LineChange) {extraction : Extraction}
    (tidy : job.processor.Tidy)
    (processed : job.processor.process job.text .file = .ok extraction) :
    (job.version (engine.fullMerge job base changes extraction) extraction.outline
      extraction.recovered).Shows job.text extraction where
  lineCount := rfl
  textHash := rfl
  recovered := rfl
  chunks := engine.map_withoutId_fullMerge base changes tidy processed
  outline := fun _ => Iff.rfl
  ordered := Or.inl rfl

/-- A first parse shows what is in the text just as it was found. -/
theorem Answered.shows_fresh {outcome : Outcome} (answered : Answered engine job none (.ok outcome))
    (tidy : job.processor.Tidy) : ∃ extraction,
      job.processor.process job.text .file = .ok extraction ∧
      outcome.version.Shows job.text extraction ∧ outcome.version.outline = extraction.outline ∧
      outcome.version.file = job.file ∧ outcome.version.language = job.language := by
  generalize given : Except.ok outcome = result at answered
  cases answered with
  | unchanged known => cases known
  | refused => cases given
  | @full extraction changes reason processed =>
    rw [Job.checked_eq_ok given.symm]
    exact ⟨extraction, processed, shows_full _ changes tidy processed, rfl, rfl, rfl⟩
  | windows known => cases known

end Engine

end Chunking
