/-
The engine never has itself to blame. Whatever texts, languages and constructs it
is given, the version that it makes keeps all rules, so the check that comes
before publication never fails. A defect that is reported all the same was handed
over by a processor or by the comparison of two texts.
-/

import Chunking.Proofs.Contents
import Chunking.Proofs.IdHistory
import Chunking.Proofs.Pieces

namespace Chunking

namespace Engine

variable {engine : Engine} {job : Job} {named : Kind → String → Prop}

/-! ### What is handed over for the check -/

/-- A version is valid if its parts are: chunks, ids and outline have nothing to do with each
other. -/
theorem valid_version {merged : Merge.Outcome} {outline : List Span} {recovered : Bool}
    (matching : ∀ chunk ∈ merged.chunks, chunk.Matches job.index)
    (row : merged.chunks.Pairwise fun left right => left.span.Before right.span)
    (distinct : (merged.chunks.map Chunk.id).Nodup)
    (nodesFit : ∀ node ∈ outline, node.Fits job.index.size)
    (nodesOrdered : outline.Pairwise fun left right => left.startLine ≤ right.startLine) :
    (job.version merged outline recovered).Valid job.text where
  fits := fun chunk member => (matching chunk member).fits
  row := row
  distinct := distinct
  nodesFit := nodesFit
  nodesOrdered := nodesOrdered
  lineCount := rfl
  digests := matching

theorem freshChunks_proper (drafts : List Draft) :
    ∀ fresh ∈ job.freshChunks drafts, fresh.span.startLine ≤ fresh.span.endLine :=
  fun _ member => (Job.freshChunks_match member).fits.2.1

theorem valid_full {base : Option Version} {changes : List LineChange} {extraction : Extraction}
    (nodesFit : ∀ node ∈ extraction.outline, node.Fits job.index.size)
    (nodesOrdered : extraction.outline.Pairwise fun left right => left.startLine ≤ right.startLine)
    (distinct : ((engine.fullMerge job base changes extraction).chunks.map Chunk.id).Nodup) :
    (job.version (engine.fullMerge job base changes extraction) extraction.outline
      extraction.recovered).Valid job.text :=
  valid_version
    (Merge.merge_matches (by simp) fun _ member => Job.freshChunks_match member)
    (Merge.merge_row .nil (by simp) (freshChunks_proper extraction.drafts)) distinct nodesFit
    nodesOrdered

theorem valid_windows {snapshot : Snapshot} {changes : List LineChange} {resolution : Resolution}
    {windows : List LineRange} {swallowed : List Chunk} {found : WindowFindings}
    (bounded : ∀ ⦃part extraction⦄, job.processor.process part .window = .ok extraction →
      ∀ node ∈ extraction.outline, node.Fits (LineIndex.ofText part).size)
    (valid : snapshot.version.Valid snapshot.text)
    (script : IsEditScript changes snapshot.text job.text)
    (oldSmall : (LineIndex.ofText snapshot.text).size < Word.signedLimit)
    (newSmall : job.index.size < Word.signedLimit)
    (windowed : Resolution.Windowed job.processor.isBoundary snapshot.version changes job.index
      windows swallowed resolution)
    (foundIn : FoundIn job windows found)
    (distinct : ((engine.windowMerge job snapshot.version changes resolution found).chunks.map
      Chunk.id).Nodup) :
    (job.version (engine.windowMerge job snapshot.version changes resolution found)
      (carryOutline snapshot.version.outline changes windows found.outline) false).Valid job.text := by
  obtain ⟨matching, row⟩ := windowed.survivors_match script oldSmall newSmall valid.digests valid.row
  have nodesFit : ∀ node ∈ snapshot.version.outline,
      node.Fits (LineIndex.ofText snapshot.text).rows.length := by
    intro node member
    have fits := valid.nodesFit node member
    rw [← valid.lineCount] at fits
    exact fits
  have foundFit : ∀ node ∈ found.outline, node.Fits job.index.rows.length := by
    intro node member
    obtain ⟨window, listed, extraction, processed, inner, among, rfl⟩ :=
      (foundIn.outline node).mp member
    have inside := windowed.settled.fair.inside window listed
    rw [Resolution.size_cuts] at inside
    exact (Span.fits_offset inside (bounded processed inner among)).1
  exact valid_version
    (Merge.merge_matches matching fun _ member => Job.freshChunks_match member)
    (Merge.merge_row (row.imp Span.Before.overlaps)
      (fun chunk member => (matching chunk member).fits.2.1)
      (freshChunks_proper found.drafts)) distinct
    (carryOutline_fits script oldSmall newSmall nodesFit foundFit) carryOutline_ordered

theorem checked_of_valid {version : Version} (valid : version.Valid job.text) (report : Report) :
    job.checked version report = .ok ⟨version, report⟩ :=
  Job.checked_eq_ok_iff.mpr ⟨valid.validate, rfl⟩

/-! ### Answers -/

/-- A snapshot that keeps the rules and whose ids are accounted for. -/
structure Sane (file : String) (named : Kind → String → Prop) (snapshot : Snapshot) : Prop where
  valid : snapshot.version.Valid snapshot.text
  accounts : snapshot.version.lineage.Accounts file named snapshot.version.chunks

/-- From a sane snapshot the engine comes to a valid version, if it comes to one at all. -/
theorem Answered.valid {prior : Option Snapshot} {result : Except Error Outcome}
    (answered : Answered engine job prior result) (readable : ChunkId.Readable named)
    (proper : job.processor.Names named) (outlines : job.processor.Outlines)
    (sane : ∀ snapshot ∈ prior, Sane job.file named snapshot)
    (newSmall : job.index.size < Word.signedLimit)
    (small : ∀ snapshot ∈ prior, (LineIndex.ofText snapshot.text).size < Word.signedLimit)
    (scripts : ∀ snapshot ∈ prior, ∀ changes,
      engine.detect snapshot.text job.text = .ok changes →
        IsEditScript changes snapshot.text job.text) :
    (∃ outcome, result = .ok outcome ∧ outcome.version.Valid job.text) ∨
      ∃ error, result = .error error ∧ Refused engine job prior error := by
  have accounts := fun snapshot member => (sane snapshot member).accounts
  cases answered with
  | @unchanged snapshot known sameLanguage sameText =>
    exact Or.inl ⟨_, rfl, sameText ▸ (sane snapshot known).valid⟩
  | refused refused => exact Or.inr ⟨_, rfl, refused⟩
  | @full extraction changes reason processed =>
    have valid : (job.version (engine.fullMerge job (inherited job prior) changes extraction)
        extraction.outline extraction.recovered).Valid job.text :=
      valid_full (outlines processed).1 (outlines processed).2 (fullMerge_sound readable
        (proper processed) (inherited_accounts accounts) changes).accounts.distinct
    exact Or.inl ⟨_, checked_of_valid valid _, valid⟩
  | @windows snapshot changes resolution windows swallowed found known _ _ detected windowed
      foundIn =>
    have valid : (job.version (engine.windowMerge job snapshot.version changes resolution found)
        (carryOutline snapshot.version.outline changes windows found.outline) false).Valid
          job.text :=
      valid_windows (fun _ _ processed => (outlines processed).1) (sane snapshot known).valid
        (scripts snapshot known changes detected) (small snapshot known) newSmall windowed foundIn
        (windowMerge_sound readable (foundIn.names proper) (accounts snapshot known)
          windowed).accounts.distinct
    exact Or.inl ⟨_, checked_of_valid valid _, valid⟩

/-! ### Runs -/

/-- A snapshot that calls can have led to. -/
def Reached (file : String) (named : Kind → String → Prop) (calls : List Call)
    (prior : Option Snapshot) : Prop :=
  (∀ snapshot ∈ prior, Sane file named snapshot) ∧ FromCalls calls prior

section runs

variable {file : String} {calls : List Call} (readable : ChunkId.Readable named)
  (proper : ∀ language processor, engine.registry language = some processor →
    processor.Names named)
  (outlines : ∀ language processor, engine.registry language = some processor →
    processor.Outlines)
  (small : ∀ call ∈ calls, (LineIndex.ofText call.text).size < Word.signedLimit)
  (scripts : ∀ call ∈ calls, ∀ later ∈ calls, ∀ changes,
    engine.detect call.text later.text = .ok changes → IsEditScript changes call.text later.text)
  {prior : Option Snapshot} {call : Call}

include readable proper outlines small scripts

theorem Reached.answer (reached : Reached file named calls prior) (member : call ∈ calls) :
    (∃ outcome, engine.answer file prior call = .ok outcome ∧
      Sane file named ⟨outcome.version, call.text⟩) ∨
    ∃ error, engine.answer file prior call = .error error ∧
      (error.isDefect = true → HandedOver engine calls call error) := by
  obtain ⟨sane, listed⟩ := reached
  rcases engine.answer_cases file prior call with ⟨_, failed⟩ | ⟨processor, registered, answered⟩
  · exact Or.inr ⟨_, failed, nofun⟩
  · rcases answered.valid readable (proper _ _ registered) (outlines _ _ registered) sane
        (small call member) (listed.small small) (listed.scripts member scripts)
      with ⟨outcome, given, valid⟩ | ⟨error, given, refused⟩
    · have step := (given ▸ answered).idStep readable (proper _ _ registered)
        fun snapshot known => (sane snapshot known).accounts
      exact Or.inl ⟨outcome, given, valid, step.accounts⟩
    · exact Or.inr ⟨error, given, refused.handedOver registered listed⟩

theorem Reached.remaining (reached : Reached file named calls prior) (member : call ∈ calls) :
    Reached file named calls (remaining prior call (engine.answer file prior call)) := by
  refine ⟨?_, reached.2.remaining member⟩
  rcases reached.answer readable proper outlines small scripts member with
    ⟨outcome, given, sane⟩ | ⟨error, given, _⟩
  · rw [remaining_of_ok given]
    rintro snapshot ⟨⟩
    exact sane
  · rw [given]
    exact reached.1

end runs

/-! ### A line that is added -/

/-- A line that is added behind two constructs of one line each is parsed together with the second of
them. -/
theorem resolve_addedLine {version : Version}
    (spans : version.chunks.map Chunk.span = [⟨1, 1⟩, ⟨2, 2⟩])
    (outline : version.outline = [⟨1, 1⟩, ⟨2, 2⟩]) (lineCount : version.lineCount = 2) :
    (Resolution.resolve (fun _ _ => true) default version [⟨⟨2, 2⟩, ⟨2, 3⟩⟩]
      (.ofText "a\nb\nc\n")).scope = .windows [⟨1, 3⟩] := by
  obtain ⟨first, _, chunks, firstSpan, others⟩ := List.map_eq_cons_iff.mp spans
  obtain ⟨second, _, rfl, secondSpan, none⟩ := List.map_eq_cons_iff.mp others
  cases List.map_eq_nil_iff.mp none
  have lines : (LineIndex.ofText "a\nb\nc\n").lines = ["a", "b", "c"] := by decide
  have window : Resolution.around 3 ⟨⟨2, 2⟩, ⟨2, 3⟩⟩ = ⟨1, 3⟩ := by decide
  have snapped : Cuts.snap ⟨["a", "b", "c"], fun _ _ => true, [⟨⟨2, 2⟩, ⟨2, 3⟩⟩],
      [⟨1, 1⟩, ⟨2, 2⟩], 2⟩ ⟨1, 3⟩ = ⟨1, 3⟩ := by decide
  have alone : LineRange.coalesce [⟨1, 3⟩] = [⟨1, 3⟩] := by
    simp [LineRange.coalesce, LineRange.isEmpty, LineRange.joinFrom]
  have unmoved : Changes.shiftSpan [⟨⟨2, 2⟩, ⟨2, 3⟩⟩] ⟨1, 1⟩ = ⟨1, 1⟩ ∧
      Changes.shiftSpan [⟨⟨2, 2⟩, ⟨2, 3⟩⟩] ⟨2, 2⟩ = ⟨2, 2⟩ := by decide
  have few : Resolution.isExcessive default 1 2 = false := by decide
  simp +decide [Resolution.resolve, chunks, outline, lineCount, lines, firstSpan, secondSpan,
    Cuts.size, window, Windows.settle, Windows.close, Windows.sweep, Windows.swallow?, unmoved,
    snapped, alone, few, Span.toRange, LineRange.hull]

section lines

variable {kind : Language → Kind} {name : Language → String}

theorem linewise_registry_names (plain : ∀ language, ¬ ChunkId.Numbered (name language)) :
    ∀ language processor, (linewise kind name).registry language = some processor →
      processor.Names fun _ name => ¬ ChunkId.Numbered name := by
  rintro language _ ⟨⟩
  exact linewise_plain _ _ (plain language)

theorem linewise_registry_outlines : ∀ language processor,
    (linewise kind name).registry language = some processor → processor.Outlines := by
  rintro language _ ⟨⟩
  exact Processor.linewise_outlines _ _ _

/-- Where every line is a construct and texts can be compared, every call has a result. -/
theorem linewise_answers (plain : ∀ language, ¬ ChunkId.Numbered (name language)) {file : String}
    {calls : List Call}
    (small : ∀ call ∈ calls, (LineIndex.ofText call.text).size < Word.signedLimit)
    (compared : ∀ call ∈ calls, ∀ later ∈ calls, ∃ changes,
      Diff.detect .ample call.text later.text = .ok changes ∧
        IsEditScript changes call.text later.text)
    {store : Store} (new : store.peek? file = none) :
    ∀ moment ∈ (linewise kind name).moments file store calls, ∃ outcome,
      (linewise kind name).answer file moment.1 moment.2 = .ok outcome := by
  have scripts := scripts_of_compared compared
  have start : Reached file (fun _ name => ¬ ChunkId.Numbered name) calls (store.peek? file) := by
    rw [new]
    exact ⟨nofun, nofun⟩
  have holds := (linewise kind name).moments_invariant file
    (Reached file (fun _ name => ¬ ChunkId.Numbered name) calls)
    (fun moment _ member reached => reached.remaining ChunkId.readable_of_not_numbered
      (linewise_registry_names plain) linewise_registry_outlines small scripts member) start
  intro moment among
  obtain ⟨member, sane, listed⟩ := holds moment among
  have answered := (linewise kind name).answered_build ⟨file, moment.2.text, moment.2.language,
    .linewise moment.2.language (kind moment.2.language) (name moment.2.language)⟩ moment.2.request
    moment.1
  rcases answered.valid ChunkId.readable_of_not_numbered (linewise_plain _ _ (plain _))
    (Processor.linewise_outlines _ _ _) sane (small _ member) (listed.small small)
    (listed.scripts member scripts) with ⟨outcome, given, _⟩ | ⟨error, _, refused⟩
  · exact ⟨outcome, given⟩
  · cases refused with
    | @comparison snapshot _ known failed _ =>
      obtain ⟨earlier, among, same⟩ := listed snapshot known
      obtain ⟨_, found, _⟩ := compared earlier among _ member
      rw [same] at found
      cases found.symm.trans failed
    | window failed => cases failed
    | parse failed => cases failed

end lines

/-- The third line is found without parsing the whole text. -/
theorem addedLine_incremental :
    let engine := linewise (fun _ => .function) fun _ => "line"
    ∃ prior outcome, (prior, ⟨.auto, "a\nb\nc\n", .python⟩) ∈ engine.moments "notes" {} addedLine ∧
      engine.answer "notes" prior ⟨.auto, "a\nb\nc\n", .python⟩ = .ok outcome ∧
      outcome.report.mode = .incremental := by
  intro engine
  have plain : ¬ ChunkId.Numbered "line" := ChunkId.not_numbered_of_not_mem (by decide)
  have answers : ∀ moment ∈ engine.moments "notes" {} addedLine, ∃ outcome,
      engine.answer "notes" moment.1 moment.2 = .ok outcome :=
    linewise_answers (fun _ => plain) addedLine_small detect_of_addedLine rfl
  obtain ⟨first, given⟩ := answers (none, ⟨.auto, "a\nb\n", .python⟩) List.mem_cons_self
  have moments : engine.moments "notes" {} addedLine = _ := engine.moments_pair rfl given
  rw [moments] at answers ⊢
  obtain ⟨second, secondGiven⟩ := answers (some ⟨first.version, "a\nb\n"⟩, _)
    (List.mem_cons_of_mem _ List.mem_cons_self)
  refine ⟨_, second, List.mem_cons_of_mem _ List.mem_cons_self, secondGiven, ?_⟩
  have answered : Answered engine ⟨"notes", "a\nb\n", .python, .linewise .python .function "line"⟩
      none (.ok first) :=
    given ▸ engine.answered_build ⟨"notes", "a\nb\n", .python, _⟩ .auto none
  obtain ⟨_, ⟨⟩, shows, outline, _, language⟩ :=
    answered.shows_fresh (Processor.linewise_tidy .python .function "line")
  have found : Extraction.ofLines .function (fun _ => "line") "a\nb\n" =
      ⟨[{ kind := .function, name := "line", span := ⟨1, 1⟩ },
        { kind := .function, name := "line", span := ⟨2, 2⟩ }], false, [⟨1, 1⟩, ⟨2, 2⟩]⟩ := rfl
  have different : "a\nb\n" ≠ "a\nb\nc\n" := by decide
  have parted : Parted engine ⟨"notes", "a\nb\nc\n", .python, .linewise .python .function "line"⟩
      .auto ⟨first.version, "a\nb\n"⟩ [⟨⟨2, 2⟩, ⟨2, 3⟩⟩] [⟨1, 3⟩] := by
    have detects : engine.detect = Diff.detect .ample := rfl
    refine ⟨⟨rfl, language, different, shows.recovered⟩, ?_,
      resolve_addedLine ?_ (outline.trans (congrArg _ found)) shows.lineCount⟩
    · rw [detects]
      exact detect_addedLine
    · have spans := congrArg (List.map Chunk.span) shows.chunks
      rw [List.map_map, found] at spans
      exact spans
  have planned := plan_parted parted
  exact engine.mode_of_plan _ planned secondGiven

/-! ### Runs without fault -/

/-- Every version that is handed over for the check keeps all rules: a result is a valid version, and
an error that is a defect was handed over by a processor or by the comparison of two texts. -/
structure FaultlessRun (engine : Engine) (calls : List Call)
    (served : List (Call × Except Error Outcome)) : Prop where
  valid : ∀ call outcome, (call, .ok outcome) ∈ served → outcome.version.Valid call.text ∧
    outcome.version.validate (some call.text) = .ok ()
  blameless : ∀ call error, (call, .error error) ∈ served → error.isDefect = true →
    HandedOver engine calls call error

/-- A run on one file is without fault if outlines are in order and no name looks numbered. -/
theorem serve_faultless (engine : Engine) (file : String)
    (plain : ∀ language processor, engine.registry language = some processor →
      processor.Names fun _ name => ¬ ChunkId.Numbered name)
    (outlines : ∀ language processor, engine.registry language = some processor →
      processor.Outlines)
    (store : Store) (new : store.peek? file = none) (calls : List Call)
    (small : ∀ call ∈ calls, (LineIndex.ofText call.text).size < Word.signedLimit)
    (scripts : ∀ call ∈ calls, ∀ later ∈ calls, ∀ changes,
      engine.detect call.text later.text = .ok changes → IsEditScript changes call.text later.text) :
    FaultlessRun engine calls (engine.serve file store calls) := by
  have readable := ChunkId.readable_of_not_numbered
  have start : Reached file (fun _ name => ¬ ChunkId.Numbered name) calls (store.peek? file) := by
    rw [new]
    exact ⟨nofun, nofun⟩
  have moment : ∀ call result, (call, result) ∈ engine.serve file store calls →
      ∃ prior, Reached file (fun _ name => ¬ ChunkId.Numbered name) calls prior ∧ call ∈ calls ∧
        result = engine.answer file prior call := by
    intro call result among
    obtain ⟨prior, _, _, reached, member, given, _⟩ := engine.serve_moment file _
      (fun call member prior reached =>
        Reached.remaining readable plain outlines small scripts reached member)
      start (List.singleton_sublist.mpr among)
    exact ⟨prior, reached, member, given⟩
  refine ⟨fun call outcome among => ?_, fun call error among => ?_⟩
  · obtain ⟨prior, reached, member, given⟩ := moment call _ among
    rcases reached.answer readable plain outlines small scripts member with
      ⟨_, found, sane⟩ | ⟨_, found, _⟩
    · cases given.trans found
      exact ⟨sane.valid, sane.valid.validate⟩
    · cases given.trans found
  · obtain ⟨prior, reached, member, given⟩ := moment call _ among
    rcases reached.answer readable plain outlines small scripts member with
      ⟨_, found, _⟩ | ⟨_, found, outside⟩
    · cases given.trans found
    · cases given.trans found
      exact outside

/-- A line is added behind two lines. -/
theorem serve_faultless_linewise :
    let engine := linewise (fun _ => .function) fun _ => "line"
    (∃ outcome, (⟨.auto, "a\nb\nc\n", .python⟩, .ok outcome) ∈ engine.serve "notes" {} addedLine ∧
      outcome.report.mode = .incremental) ∧
    FaultlessRun engine addedLine (engine.serve "notes" {} addedLine) := by
  intro engine
  have plain : ¬ ChunkId.Numbered "line" := ChunkId.not_numbered_of_not_mem (by decide)
  refine ⟨?_, serve_faultless engine "notes" (linewise_registry_names fun _ => plain) linewise_registry_outlines {} rfl
    addedLine addedLine_small addedLine_scripts⟩
  obtain ⟨prior, outcome, among, given, incremental⟩ := addedLine_incremental
  rw [serve_eq_map_moments]
  refine ⟨outcome, List.mem_map.mpr ⟨_, among, ?_⟩, incremental⟩
  rw [← given]

end Engine

end Chunking
