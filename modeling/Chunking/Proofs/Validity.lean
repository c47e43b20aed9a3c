/-
The rules that every version keeps. What the engine makes keeps them for reasons
that have nothing to do with each other: constructs outside of the text are
dropped before they are scored, overlaps are dropped in the merge, a survivor
stands on the rows that it stood on before, and an outline that is carried over
is sorted again. Each reason is one lemma here. That ids are distinct is another
matter, and is left to the lineage.
-/

import Chunking.Proofs.Answers

namespace Chunking

namespace Version

/-! ### The rules -/

/-- The rules of a version of a text. -/
structure Valid (version : Version) (text : String) : Prop where
  fits : ∀ chunk ∈ version.chunks, chunk.span.Fits version.lineCount
  row : version.chunks.Pairwise fun left right => left.span.Before right.span
  distinct : version.ids.Nodup
  nodesFit : ∀ node ∈ version.outline, node.Fits version.lineCount
  nodesOrdered : version.outline.Pairwise fun left right => left.startLine ≤ right.startLine
  lineCount : (LineIndex.ofText text).size = version.lineCount
  digests : ∀ chunk ∈ version.chunks,
    (LineIndex.ofText text).spanDigest? chunk.span.startLine chunk.span.endLine =
      some chunk.contentHash

theorem fits_eq_true {lineCount : Nat} {span : Span} :
    fits lineCount span = true ↔ span.Fits lineCount := by
  simp only [fits, Span.isProper, Span.Fits, Bool.and_eq_true, decide_eq_true_eq]
  omega

theorem chunkFault?_eq_none {lineCount : Nat} {seen : List String} {previous : Option Chunk}
    {chunks : List Chunk} (fits : ∀ chunk ∈ chunks, chunk.span.Fits lineCount)
    (row : chunks.Pairwise fun left right => left.span.Before right.span)
    (behind : ∀ earlier ∈ previous, ∀ chunk ∈ chunks, earlier.span.Before chunk.span)
    (distinct : (chunks.map Chunk.id).Nodup) (unseen : ∀ chunk ∈ chunks, chunk.id ∉ seen) :
    chunkFault? lineCount seen previous chunks = none := by
  induction chunks generalizing seen previous with
  | nil => rfl
  | cons chunk rest inductionHypothesis =>
    rw [List.pairwise_cons] at row
    rw [List.map_cons, List.nodup_cons] at distinct
    have inside := fits_eq_true.mpr (fits chunk List.mem_cons_self)
    have inOrder : (previous.filter (chunk.span.startLine ≤ ·.span.endLine)) = none := by
      rw [Option.filter_eq_none_iff]
      intro earlier member
      have before := behind earlier member chunk List.mem_cons_self
      simpa [Span.Before] using before
    have new : seen.contains chunk.id = false := by
      simpa using unseen chunk List.mem_cons_self
    have later : chunkFault? lineCount (chunk.id :: seen) (some chunk) rest = none := by
      refine inductionHypothesis (fun other member => fits other (List.mem_cons_of_mem _ member))
        row.2 (by simpa using row.1) distinct.2 fun other member => ?_
      rw [List.mem_cons, not_or]
      refine ⟨fun same => distinct.1 (same ▸ List.mem_map_of_mem member), ?_⟩
      exact unseen other (List.mem_cons_of_mem _ member)
    unfold chunkFault?
    rw [inside, inOrder, new]
    exact later

theorem outlineFault?_eq_none {lineCount least : Nat} {nodes : List Span}
    (fits : ∀ node ∈ nodes, node.Fits lineCount)
    (ordered : nodes.Pairwise fun left right => left.startLine ≤ right.startLine)
    (behind : ∀ node ∈ nodes, least ≤ node.startLine) :
    outlineFault? lineCount least nodes = none := by
  induction nodes generalizing least with
  | nil => rfl
  | cons node rest inductionHypothesis =>
    rw [List.pairwise_cons] at ordered
    have inside := fits_eq_true.mpr (fits node List.mem_cons_self)
    rw [outlineFault?, inside, decide_eq_true (behind node List.mem_cons_self), Bool.true_and,
      if_pos rfl]
    exact inductionHypothesis (fun other member => fits other (List.mem_cons_of_mem _ member))
      ordered.2 ordered.1

/-- A version that keeps the rules passes the check. -/
theorem Valid.validate {version : Version} {text : String} (valid : version.Valid text) :
    version.validate (some text) = .ok () := by
  have chunks : chunkFault? version.lineCount [] none version.chunks = none :=
    chunkFault?_eq_none valid.fits valid.row (by simp) valid.distinct (by simp)
  have outline : outlineFault? version.lineCount 1 version.outline = none :=
    outlineFault?_eq_none valid.nodesFit valid.nodesOrdered
      fun node member => (valid.nodesFit node member).1
  have texts : version.textFault? (LineIndex.ofText text) = none := by
    unfold textFault?
    rw [if_neg (by simpa using valid.lineCount), Option.map_eq_none_iff, List.find?_eq_none]
    intro chunk member
    simp [valid.digests chunk member]
  rw [Version.validate, fault?, chunks, outline, Option.bind_some, texts]
  rfl

/-! ### What the check tells -/

theorem rules_of_chunkFault? {lineCount : Nat} {seen : List String} {previous : Option Chunk}
    {chunks : List Chunk} (passed : chunkFault? lineCount seen previous chunks = none) :
    (∀ chunk ∈ chunks, chunk.span.Fits lineCount) ∧
      (chunks.Pairwise fun left right => left.span.Before right.span) ∧
      (∀ earlier ∈ previous, ∀ chunk ∈ chunks, earlier.span.Before chunk.span) ∧
      (chunks.map Chunk.id).Nodup ∧ ∀ chunk ∈ chunks, chunk.id ∉ seen := by
  induction chunks generalizing seen previous with
  | nil => simp
  | cons chunk rest inductionHypothesis =>
    unfold chunkFault? at passed
    split at passed
    · cases passed
    next inside =>
      have fits : chunk.span.Fits lineCount := fits_eq_true.mp (by simpa using inside)
      split at passed
      · cases passed
      next inOrder =>
        split at passed
        · cases passed
        next new =>
          obtain ⟨restFit, row, behind, distinct, unseen⟩ := inductionHypothesis passed
          have follows : ∀ other ∈ rest, chunk.span.Before other.span := behind chunk rfl
          refine ⟨List.forall_mem_cons.mpr ⟨fits, restFit⟩, List.pairwise_cons.mpr ⟨follows, row⟩,
            fun earlier known => ?_, ?_, ?_⟩
          · -- The check compares neighbours only; the span in between closes the gap.
            have before : earlier.span.Before chunk.span := by
              simpa [Span.Before] using Option.filter_eq_none_iff.mp inOrder earlier known
            refine List.forall_mem_cons.mpr ⟨before, fun other member => ?_⟩
            exact Nat.lt_trans (Nat.lt_of_lt_of_le before fits.2.1) (follows other member)
          · rw [List.map_cons, List.nodup_cons]
            refine ⟨fun repeated => ?_, distinct⟩
            obtain ⟨other, member, same⟩ := List.mem_map.mp repeated
            exact unseen other member (same ▸ List.mem_cons_self)
          · refine List.forall_mem_cons.mpr ⟨by simpa using new, fun other member listed => ?_⟩
            exact unseen other member (List.mem_cons_of_mem _ listed)

theorem rules_of_outlineFault? {lineCount least : Nat} {nodes : List Span}
    (passed : outlineFault? lineCount least nodes = none) :
    (∀ node ∈ nodes, node.Fits lineCount) ∧
      (nodes.Pairwise fun left right => left.startLine ≤ right.startLine) ∧
      ∀ node ∈ nodes, least ≤ node.startLine := by
  induction nodes generalizing least with
  | nil => simp
  | cons node rest inductionHypothesis =>
    rw [outlineFault?] at passed
    split at passed
    next inside =>
      rw [Bool.and_eq_true, fits_eq_true, decide_eq_true_eq] at inside
      obtain ⟨restFit, ordered, behind⟩ := inductionHypothesis passed
      refine ⟨List.forall_mem_cons.mpr ⟨inside.1, restFit⟩,
        List.pairwise_cons.mpr ⟨behind, ordered⟩, List.forall_mem_cons.mpr ⟨inside.2, ?_⟩⟩
      exact fun other member => Nat.le_trans inside.2 (behind other member)
    next => cases passed

/-- The check passes just for the versions that keep the rules. -/
theorem validate_eq_ok {version : Version} {text : String} :
    version.validate (some text) = .ok () ↔ version.Valid text := by
  refine ⟨fun passed => ?_, Valid.validate⟩
  have none : version.fault? (some text) = none := by
    unfold Version.validate at passed
    split at passed
    next none => exact none
    next => cases passed
  rw [fault?, Option.or_eq_none_iff, Option.or_eq_none_iff, Option.bind_some] at none
  obtain ⟨chunks, outline, texts⟩ := none
  obtain ⟨fits, row, _, distinct, _⟩ := rules_of_chunkFault? chunks
  obtain ⟨nodesFit, nodesOrdered, _⟩ := rules_of_outlineFault? outline
  unfold textFault? at texts
  split at texts
  · cases texts
  next lineCount =>
    rw [Option.map_eq_none_iff, List.find?_eq_none] at texts
    exact ⟨fits, row, distinct, nodesFit, nodesOrdered, by simpa using lineCount,
      fun chunk member => by simpa using texts chunk member⟩

end Version

theorem Job.checked_valid {job : Job} {version : Version} {report : Report} {outcome : Outcome}
    (given : job.checked version report = .ok outcome) :
    outcome.version = version ∧ version.Valid job.text := by
  obtain ⟨passed, same⟩ := checked_eq_ok_iff.mp given
  exact ⟨congrArg Outcome.version same, Version.validate_eq_ok.mp passed⟩

/-! ### Spans of a text -/

theorem LineIndex.fits_of_spanDigest? {index : LineIndex} {span : Span} {digest : String}
    (found : index.spanDigest? span.startLine span.endLine = some digest) : span.Fits index.size := by
  obtain ⟨text, inside, _⟩ := Option.map_eq_some_iff.mp found
  unfold spanText? at inside
  split at inside
  · cases inside
  · simp only [Span.Fits]
    omega

theorem LineIndex.spanDigest?_isSome {index : LineIndex} {span : Span} (fits : span.Fits index.size) :
    (index.spanDigest? span.startLine span.endLine).isSome = true := by
  obtain ⟨positive, proper, inside⟩ := fits
  rw [spanDigest?, Option.isSome_map, spanText?, if_neg (by omega)]
  rfl

/-- A chunk as it should be in a text: inside of it, with the digest of its lines. -/
def Chunk.Matches (index : LineIndex) (chunk : Chunk) : Prop :=
  index.spanDigest? chunk.span.startLine chunk.span.endLine = some chunk.contentHash

theorem Chunk.Matches.fits {index : LineIndex} {chunk : Chunk} (fitting : chunk.Matches index) :
    chunk.span.Fits index.size :=
  LineIndex.fits_of_spanDigest? fitting

namespace Job

variable {job : Job} {drafts : List Draft}

theorem mem_freshChunks {fresh : FreshChunk} : fresh ∈ job.freshChunks drafts ↔
    ∃ draft ∈ drafts, ∃ contentHash,
      job.index.spanDigest? draft.span.startLine draft.span.endLine = some contentHash ∧
      fresh = ⟨draft, contentHash,
        (Signals.inspect draft job.language job.index.lines).score draft.rawConfidence⟩ := by
  unfold freshChunks
  simp only [List.mem_filterMap, Option.map_eq_some_iff]
  constructor
  · rintro ⟨draft, member, contentHash, digest, rfl⟩
    exact ⟨draft, member, contentHash, digest, rfl⟩
  · rintro ⟨draft, member, contentHash, digest, rfl⟩
    exact ⟨draft, member, contentHash, digest, rfl⟩

/-- Drafts inside of the text are all scored. -/
theorem map_draft_freshChunks (fit : ∀ draft ∈ drafts, draft.span.Fits job.index.size) :
    (job.freshChunks drafts).map FreshChunk.draft = drafts := by
  unfold freshChunks
  simp only
  rw [List.map_filterMap]
  conv_rhs => rw [← List.filterMap_some (l := drafts)]
  refine List.filterMap_congr fun draft member => ?_
  obtain ⟨digest, found⟩ := Option.isSome_iff_exists.mp
    (LineIndex.spanDigest?_isSome (fit draft member))
  rw [found]
  rfl

/-- Whatever drafts there are, those that are scored match the text. -/
theorem freshChunks_match {fresh : FreshChunk} (member : fresh ∈ job.freshChunks drafts) :
    (fresh.toChunk "").Matches job.index := by
  obtain ⟨draft, _, contentHash, digest, rfl⟩ := mem_freshChunks.mp member
  exact digest

/-- Drafts in a row are kept as they are. -/
theorem dropOverlapping_freshChunks (fit : ∀ draft ∈ drafts, draft.span.Fits job.index.size)
    (row : drafts.Pairwise fun left right => left.span.Before right.span) :
    FreshChunk.dropOverlapping (job.freshChunks drafts) = job.freshChunks drafts := by
  refine FreshChunk.dropOverlapping_eq_self
    (fun fresh member => (freshChunks_match member).fits.2.1) ?_
  have mapped : ((job.freshChunks drafts).map FreshChunk.draft).Pairwise
      fun left right => left.span.Before right.span := by
    rw [map_draft_freshChunks fit]
    exact row
  rw [List.pairwise_map] at mapped
  exact mapped

end Job

/-! ### Merging -/

namespace Merge

variable {policy : Policy} {survivors : List Chunk} {fresh : List FreshChunk}
  {invalidated : List Invalidated} {lineage : Lineage} {changes : List LineChange}

theorem merge_matches {index : LineIndex} (old : ∀ chunk ∈ survivors, chunk.Matches index)
    (new : ∀ construct ∈ fresh, (construct.toChunk "").Matches index) :
    ∀ chunk ∈ (merge policy survivors fresh invalidated lineage changes).chunks,
      chunk.Matches index := by
  intro chunk member
  rcases mem_merge member with survivor | ⟨construct, among, same⟩
  · exact old chunk survivor
  · have fitting : chunk.withoutId.Matches index := same ▸ new construct among
    exact fitting

end Merge

/-! ### Survivors -/

namespace LineIndex

/-- A span that is carried over has the same text as before. -/
theorem spanText?_shiftSpan {old new : LineIndex} {changes : List LineChange} {span : Span}
    (script : EditScript 0 0 changes old.rows new.rows) (oldSmall : old.size < Word.signedLimit)
    (newSmall : new.size < Word.signedLimit) (fits : span.Fits old.size)
    (untouched : Resolution.isTouched changes span = false) :
    new.spanText? (Changes.shiftSpan changes span).startLine
        (Changes.shiftSpan changes span).endLine =
      old.spanText? span.startLine span.endLine := by
  obtain ⟨place, carried⟩ := script.carried oldSmall newSmall fits untouched
  have stops := carried.stop_le fits
  have rows := KeptLine.rows_eq carried
  rw [carried.shiftSpan_eq fits oldSmall newSmall]
  obtain ⟨positive, proper, inside⟩ := fits
  have size : span.size = span.endLine - (span.startLine - 1) := by
    simp only [Span.size]
    omega
  have newInside : place + span.size ≤ new.size := stops
  rw [spanText?, spanText?, if_neg (by simp only; omega), if_neg (by omega), slice, slice]
  simp only [Nat.add_sub_cancel, Nat.add_sub_cancel_left]
  rw [rows, size]

end LineIndex

namespace Resolution

variable {isBoundary : Option String → String → Bool} {version : Version}
  {changes : List LineChange} {old new : LineIndex} {windows : List LineRange}
  {swallowed : List Chunk} {resolution : Resolution}

/-- Survivors match the new text as they matched the old one, and stay in a row. -/
theorem Windowed.survivors_match (windowed : Windowed isBoundary version changes new windows
      swallowed resolution) (script : EditScript 0 0 changes old.rows new.rows)
    (oldSmall : old.size < Word.signedLimit) (newSmall : new.size < Word.signedLimit)
    (matching : ∀ chunk ∈ version.chunks, chunk.Matches old)
    (row : version.chunks.Pairwise fun left right => left.span.Before right.span) :
    (∀ chunk ∈ resolution.survivors, chunk.Matches new) ∧
      resolution.survivors.Pairwise fun left right => left.span.Before right.span := by
  constructor
  · intro chunk member
    have among := windowed.settled.sublist.subset member
    obtain ⟨prior, untouched, rfl⟩ := List.mem_map.mp among
    obtain ⟨listed, apart⟩ := List.mem_filter.mp untouched
    have same := LineIndex.spanText?_shiftSpan script oldSmall newSmall (matching prior listed).fits
      (by simpa using apart)
    have digest := matching prior listed
    rw [Chunk.Matches, LineIndex.spanDigest?] at digest ⊢
    rw [same]
    exact digest
  · refine List.Pairwise.sublist windowed.settled.sublist (List.pairwise_map.mpr ?_)
    refine (row.sublist List.filter_sublist).imp_of_mem
      fun {left right} leftMember rightMember before => ?_
    obtain ⟨leftListed, leftApart⟩ := List.mem_filter.mp leftMember
    obtain ⟨rightListed, rightApart⟩ := List.mem_filter.mp rightMember
    have leftFits := (matching left leftListed).fits
    have rightFits := (matching right rightListed).fits
    obtain ⟨leftPlace, leftCarried⟩ := script.carried oldSmall newSmall leftFits
      (by simpa using leftApart)
    obtain ⟨rightPlace, rightCarried⟩ := script.carried oldSmall newSmall rightFits
      (by simpa using rightApart)
    have ordered := leftCarried.before script rightCarried leftFits.2.1 rightFits.2.1 leftFits.1 before
    simp only [Span.Before]
    rw [leftCarried.shiftSpan_eq leftFits oldSmall newSmall,
      rightCarried.shiftSpan_eq rightFits oldSmall newSmall]
    simp only
    omega

end Resolution

end Chunking
