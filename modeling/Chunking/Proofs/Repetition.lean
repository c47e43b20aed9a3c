/-
Bringing a file up to date with the text that it has already. If as little as possible
is to be parsed, nothing happens at all. If the whole text is to be parsed, all chunks
are dropped and all constructs are found again, and each construct takes over the id
of the chunk that it was: dropped chunks and constructs are gone through in the same
order, so the chunk is the first one left, and no other one is nearer. No id is given
out, brought back or buried on the way. The remembered lines stay where they are as
well, since the parse before has moved them to lines that can be told.
-/

import Chunking.Proofs.Defects
import Chunking.Proofs.PairedLines
import Chunking.Proofs.Persistence

namespace Chunking

/-! ### Constructs that are found again -/

theorem firstLeast?_cons_of_zero {α : Type} {measure : α → Nat} {item : α} (zero : measure item = 0)
    (rest : List α) : firstLeast? measure (item :: rest) = some item := by
  rw [firstLeast?]
  split
  · rfl
  · rw [zero, if_neg (Nat.not_lt_zero _)]

namespace Merge

/-- A construct takes over the id of the chunk that it was, if this is the first one left. -/
theorem claim?_own (matching : IdMatching) (construct : FreshChunk) (id : String)
    (rest : List Invalidated) :
    claim? matching (.atOwnPlace (construct.toChunk id) :: rest) construct =
      some (.atOwnPlace (construct.toChunk id), 0) := by
  have own : (Invalidated.atOwnPlace (construct.toChunk id)).chunk.key = construct.key := rfl
  unfold claim?
  simp only [List.zipIdx_cons]
  rw [List.filter_cons_of_pos (by simpa using own)]
  cases matching with
  | strictNameType => rfl
  | nameTypeProximity =>
    refine firstLeast?_cons_of_zero ?_ _
    exact Int.natAbs_eq_zero.mpr (Int.sub_self _)

theorem step_own (policy : Policy) {progress : Progress} {construct : FreshChunk} {id : String}
    {rest : List Invalidated}
    (unclaimed : progress.unclaimed = .atOwnPlace (construct.toChunk id) :: rest) :
    step policy progress construct = { progress with
      unclaimed := rest
      live := id :: progress.live
      chunks := construct.toChunk id :: progress.chunks
      reused := id :: progress.reused } := by
  rw [step, unclaimed, claim?_own]
  rfl

/-- Constructs that were chunks before become these chunks. -/
theorem foldl_step_own (policy : Policy) {chunks : List Chunk} {constructs : List FreshChunk}
    (contents : chunks.map Chunk.withoutId = constructs.map (·.toChunk "")) {progress : Progress}
    (unclaimed : progress.unclaimed = chunks.map .atOwnPlace) :
    constructs.foldl (step policy) progress = { progress with
      unclaimed := []
      live := (chunks.map Chunk.id).reverse ++ progress.live
      chunks := chunks.reverse ++ progress.chunks
      reused := (chunks.map Chunk.id).reverse ++ progress.reused } := by
  induction constructs generalizing chunks progress with
  | nil =>
    obtain rfl : chunks = [] := List.map_eq_nil_iff.mp contents
    rw [List.foldl_nil, ← List.map_nil, ← unclaimed]
    rfl
  | cons construct constructs inductionHypothesis =>
    obtain ⟨chunk, rest, rfl, same, later⟩ := List.map_eq_cons_iff.mp contents
    obtain ⟨id, rfl⟩ : ∃ id, chunk = construct.toChunk id :=
      ⟨chunk.id, congrArg (fun other : Chunk => { other with id := chunk.id }) same⟩
    rw [List.foldl_cons, step_own policy unclaimed, inductionHypothesis later rfl]
    simp [FreshChunk.toChunk]

/-- A merge that finds the dropped chunks again, and nothing else. -/
theorem merge_own (policy : Policy) {chunks : List Chunk} {fresh : List FreshChunk}
    (row : chunks.Pairwise fun left right => left.span.Before right.span)
    (proper : ∀ chunk ∈ chunks, chunk.span.startLine ≤ chunk.span.endLine)
    (contents : chunks.map Chunk.withoutId = (FreshChunk.dropOverlapping fresh).map (·.toChunk ""))
    (lineage : Lineage) (changes : List LineChange) :
    merge policy [] fresh (chunks.map .atOwnPlace) lineage changes =
      { chunks
        lineage := chunks.foldl Lineage.observe (lineage.shift changes)
        reused := chunks.map Chunk.id
        allocated := []
        displaced := 0 } := by
  have nobody : dropped [] fresh (chunks.map .atOwnPlace) = chunks.map .atOwnPlace :=
    List.append_nil _
  have inOrder : chunks.Pairwise fun left right => left.span.startLine ≤ right.span.startLine :=
    row.imp_of_mem fun {left right} member _ before => Nat.le_of_lt
      (before.startLine_lt (proper left member))
  have start : opening [] fresh (chunks.map .atOwnPlace) lineage changes =
      { unclaimed := chunks.map .atOwnPlace
        lineage := chunks.foldl Lineage.observe (lineage.shift changes)
        live := [] } := by
    rw [opening, nobody, Invalidated.map_chunk_atOwnPlace,
      List.mergeSort_of_pairwise (List.pairwise_map.mpr (inOrder.imp decide_eq_true))]
    rfl
  rw [merge_eq, closing, start, foldl_step_own policy contents rfl]
  simp only [buryUnclaimed, Progress.buried, List.append_nil, List.reverse_reverse, kept, List.filter_nil,
    List.nil_append, List.foldl_nil, List.reverse_nil, List.length_nil]
  rw [List.mergeSort_of_pairwise (inOrder.imp decide_eq_true)]

/-! ### Remembered lines -/

/-- The lines of remembered ids and of ids that are still to be had are good ones. -/
structure Progress.Places (good : Nat → Prop) (progress : Progress) : Prop where
  tombstones : ∀ tombstone ∈ progress.lineage.tombstones, good tombstone.line
  unclaimed : ∀ dead ∈ progress.unclaimed, good dead.mappedLine

variable {policy : Policy} {good : Nat → Prop}

theorem Progress.Places.step {progress : Progress} (places : progress.Places good)
    (construct : FreshChunk) : (Merge.step policy progress construct).Places good := by
  rcases step_cases policy progress construct with ⟨dead, place, _, _, same⟩ |
    ⟨_, tombstone, place, _, _, same⟩ | ⟨before, id, after, _, fewer, allocated, same⟩
  · rw [same]
    exact ⟨places.tombstones, fun other among =>
      places.unclaimed other (List.mem_of_mem_eraseIdx among)⟩
  · rw [same]
    exact ⟨fun other among => places.tombstones other (List.mem_of_mem_eraseIdx among),
      places.unclaimed⟩
  · rw [same]
    refine ⟨fun other among => places.tombstones other (fewer.subset ?_), places.unclaimed⟩
    cases allocated
    exact among

theorem Progress.Places.foldl {progress : Progress} (places : progress.Places good)
    (constructs : List FreshChunk) : (constructs.foldl (Merge.step policy) progress).Places good := by
  induction constructs generalizing progress with
  | nil => exact places
  | cons construct rest inductionHypothesis => exact inductionHypothesis (places.step construct)

/-- Burying ids adds their lines and no others. -/
theorem tombstones_foldl_bury {dead : List Invalidated} {lineage : Lineage}
    (old : ∀ tombstone ∈ lineage.tombstones, good tombstone.line)
    (new : ∀ one ∈ dead, good one.mappedLine) :
    ∀ tombstone ∈ (dead.foldl (fun lineage one => lineage.bury one.chunk one.mappedLine)
      lineage).tombstones, good tombstone.line := by
  induction dead generalizing lineage with
  | nil => exact old
  | cons one rest inductionHypothesis =>
    rw [List.forall_mem_cons] at new
    refine inductionHypothesis (fun tombstone member => ?_) new.2
    rcases List.mem_append.mp ((lineage.tombstones_bury _ _).1.subset member) with earlier | last
    · exact old tombstone earlier
    · rw [List.mem_singleton.mp last]
      exact new.1

/-- The lines of remembered ids are those from before, moved, and those of dropped chunks. -/
theorem merge_places {survivors : List Chunk} {fresh : List FreshChunk}
    {invalidated : List Invalidated} {lineage : Lineage} {changes : List LineChange}
    (moved : ∀ tombstone ∈ (lineage.shift changes).tombstones, good tombstone.line)
    (new : ∀ dead ∈ dropped survivors fresh invalidated, good dead.mappedLine) :
    ∀ tombstone ∈ (merge policy survivors fresh invalidated lineage changes).lineage.tombstones,
      good tombstone.line := by
  have start : (opening survivors fresh invalidated lineage changes).Places good := by
    refine ⟨?_, fun dead member => new dead (List.mem_mergeSort.mp member)⟩
    rw [opening, Lineage.tombstones_foldl_observe]
    exact moved
  have finish : (closing policy survivors fresh invalidated lineage changes).Places good :=
    start.foldl (FreshChunk.dropOverlapping fresh)
  exact tombstones_foldl_bury finish.tombstones fun dead member =>
    finish.unclaimed dead (List.mem_of_mem_filter member)

end Merge

/-- A line, counted from one, that stays where it is when nothing changes. -/
def IsSteady (line : Nat) : Prop :=
  1 ≤ line ∧ line ≤ Word.signedLimit

theorem IsSteady.mapLine_nil {line : Nat} (steady : IsSteady line) :
    Changes.mapLine [] (line - 1) + 1 = line := by
  obtain ⟨first, last⟩ := steady
  have still : Word.moved (line - 1) 0 = line - 1 :=
    Word.moved_of_lt (by omega) (Int.add_zero _) (by omega)
  rw [Changes.mapLine, Changes.mapLineFrom, still]
  omega

theorem Lineage.shift_nil {lineage : Lineage}
    (steady : ∀ tombstone ∈ lineage.tombstones, IsSteady tombstone.line) :
    lineage.shift [] = lineage := by
  have same : lineage.tombstones.map (fun tombstone =>
      { tombstone with line := Changes.mapLine [] (tombstone.line - 1) + 1 }) =
        lineage.tombstones := by
    refine (List.map_congr_left fun tombstone member => ?_).trans (List.map_id _)
    rw [(steady tombstone member).mapLine_nil]
    rfl
  rw [Lineage.shift, same]

theorem Invalidated.ofPrior_nil {chunk : Chunk} (steady : IsSteady chunk.span.startLine) :
    ofPrior [] chunk = atOwnPlace chunk := by
  rw [ofPrior, atOwnPlace, steady.mapLine_nil]

/-- Where changes stay within a text, every line is moved to one that can be told. -/
theorem isSteady_mapLine {changes : List LineChange} {limit : Nat} (small : limit < Word.signedLimit)
    (within : ∀ change ∈ changes, change.new.start ≤ limit ∧ change.new.stop ≤ limit) (line : Nat) :
    IsSteady (Changes.mapLine changes line + 1) := by
  have bounded (place : Nat) (delta : Int) : Word.moved place delta < Word.signedLimit := by
    unfold Word.moved Word.signedLimit
    omega
  have inside (delta : Int) : Changes.mapLineFrom delta line changes < Word.signedLimit := by
    induction changes generalizing delta with
    | nil => exact bounded line delta
    | cons change rest inductionHypothesis =>
      rw [List.forall_mem_cons] at within
      unfold Changes.mapLineFrom
      split
      · exact inductionHypothesis within.2 _
      · split
        · omega
        · exact bounded line delta
  exact ⟨Nat.le_add_left 1 _, inside 0⟩

/-! ### Parses of the whole text -/

namespace Engine

variable {engine : Engine} {job : Job}

/-- Nothing changes between a text and itself, and all changes stay within the new text. -/
structure Compares (engine : Engine) : Prop where
  same : ∀ text changes, engine.detect text text = .ok changes → changes = []
  within : ∀ old new changes, engine.detect old new = .ok changes →
    ∀ change ∈ changes, change.new.start ≤ new.length ∧ change.new.stop ≤ new.length

/-- It does not matter how much time there is for a comparison. -/
theorem compares_of_detect
    (detects : ∀ old new, ∃ deadline, engine.detect old new = Diff.detect deadline old new) :
    engine.Compares := by
  constructor
  · intro text changes detected
    obtain ⟨deadline, same⟩ := detects text text
    rw [same, Diff.detect, if_pos rfl] at detected
    cases detected
    rfl
  · intro old new changes detected change member
    obtain ⟨deadline, same⟩ := detects old new
    rw [same] at detected
    obtain ⟨_, ordered, inside⟩ := Diff.detect_holds detected change member
    have stop := Nat.le_trans inside (Diff.length_tokens_le new)
    exact ⟨Nat.le_trans ordered stop, stop⟩

theorem Compares.bestChanges_self (compares : engine.Compares) (text : String) :
    engine.bestChanges text text = [] := by
  unfold bestChanges
  split
  next changes detected => exact compares.same text changes detected
  next => rfl

/-- The changes that are known when the whole text is parsed stay within the text. -/
theorem Compared.within (compares : engine.Compares) {prior : Option Snapshot}
    {changes : List LineChange} (compared : Compared engine job prior changes) :
    ∀ change ∈ changes,
      change.new.start ≤ job.text.length ∧ change.new.stop ≤ job.text.length := by
  rcases compared with rfl | ⟨snapshot, _, detected⟩
  · simp
  · exact compares.within snapshot.text job.text changes detected

/-- A version that a parse of the whole text has led to, whatever ids it has taken over. -/
structure Whole (job : Job) (extraction : Extraction) (version : Version) : Prop where
  made : ∃ merged, version = job.version merged extraction.outline extraction.recovered
  valid : version.Valid job.text
  contents : version.chunks.map Chunk.withoutId =
    (FreshChunk.dropOverlapping (job.freshChunks extraction.drafts)).map (·.toChunk "")
  steady : ∀ tombstone ∈ version.lineage.tombstones, IsSteady tombstone.line

theorem Answered.whole {prior : Option Snapshot} {outcome : Outcome}
    (answered : Answered engine job prior (.ok outcome)) (mode : outcome.report.mode = .full)
    (compares : engine.Compares) (small : job.text.length < Word.signedLimit) :
    ∃ extraction, job.processor.process job.text .file = .ok extraction ∧
      Whole job extraction outcome.version := by
  generalize given : Except.ok outcome = result at answered
  cases answered with
  | unchanged =>
    cases given
    cases mode
  | refused => cases given
  | windows =>
    rw [Job.checked_eq_ok given.symm] at mode
    cases mode
  | @full extraction changes reason processed compared =>
    obtain ⟨same, valid⟩ := Job.checked_valid given.symm
    have steady := isSteady_mapLine small (compared.within compares)
    rw [same]
    refine ⟨extraction, processed, ⟨_, rfl⟩, valid,
      Merge.merge_contents (freshChunks_proper extraction.drafts), Merge.merge_places ?_ ?_⟩
    · intro tombstone member
      obtain ⟨earlier, _, rfl⟩ := List.mem_map.mp member
      exact steady _
    · intro dead member
      rw [Merge.dropped, List.filter_nil, List.map_nil, List.append_nil] at member
      cases inherits : inherited job prior with
      | none =>
        rw [inherits] at member
        cases member
      | some version =>
        rw [inherits] at member
        obtain ⟨chunk, _, rfl⟩ := List.mem_map.mp member
        exact steady _

namespace Whole

variable {extraction : Extraction} {version : Version}

/-- What comes out when the text is parsed again and nothing has changed. -/
theorem fullMerge (whole : Whole job extraction version)
    (small : job.text.length < Word.signedLimit) :
    engine.fullMerge job (some version) [] extraction =
      { chunks := version.chunks
        lineage := version.chunks.foldl Lineage.observe version.lineage
        reused := version.ids
        allocated := []
        displaced := 0 } := by
  have lines : version.lineCount ≤ job.text.length := by
    rw [← whole.valid.lineCount]
    exact Nat.le_trans (Diff.size_le_tokens job.text) (Diff.length_tokens_le job.text)
  have steady : ∀ chunk ∈ version.chunks, IsSteady chunk.span.startLine := by
    intro chunk member
    obtain ⟨first, ordered, last⟩ := whole.valid.fits chunk member
    exact ⟨first, by omega⟩
  have places : version.chunks.map (Invalidated.ofPrior []) =
      version.chunks.map Invalidated.atOwnPlace :=
    List.map_congr_left fun chunk member => Invalidated.ofPrior_nil (steady chunk member)
  rw [Engine.fullMerge, Option.elim_some, Option.elim_some, places,
    Merge.merge_own _ whole.valid.row (fun chunk member => (whole.valid.fits chunk member).2.1)
      whole.contents, Lineage.shift_nil whole.steady]
  rfl

/-- The version with ids taken note of once more, which makes no difference for its rules. -/
def observed (version : Version) : Version :=
  { version with lineage := version.chunks.foldl Lineage.observe version.lineage }

theorem observed_eq (version : Version) :
    observed version = { version with
      lineage := { version.lineage with ordinals := (observed version).lineage.ordinals } } := by
  have kept := Lineage.tombstones_foldl_observe version.chunks version.lineage
  unfold observed
  generalize version.chunks.foldl Lineage.observe version.lineage = later at kept ⊢
  obtain ⟨ordinals, tombstones⟩ := later
  subst kept
  rfl

theorem fullAnswer (whole : Whole job extraction version)
    (processed : job.processor.process job.text .file = .ok extraction)
    (small : job.text.length < Word.signedLimit) (reason : Escalation) :
    engine.fullAnswer job (some version) [] reason =
      .ok ⟨observed version, engine.fullReport job (some version) [] reason extraction⟩ := by
  have made : job.version (engine.fullMerge job (some version) [] extraction) extraction.outline
      extraction.recovered = observed version := by
    obtain ⟨merged, same⟩ := whole.made
    rw [whole.fullMerge small, observed, same]
    rfl
  have valid : (observed version).Valid job.text :=
    ⟨whole.valid.fits, whole.valid.row, whole.valid.distinct, whole.valid.nodesFit,
      whole.valid.nodesOrdered, whole.valid.lineCount, whole.valid.digests⟩
  rw [Engine.fullAnswer, processed]
  simp only
  rw [fullOutcome, made, checked_of_valid valid]

end Whole

/-! ### The same text again -/

/-- A text that is known is looked up, without a processor being asked. -/
theorem transact_known {store : Store} {file text : String} {version : Version}
    {processor : Processor} (registered : engine.registry version.language = some processor)
    (current : store.peek? file = some ⟨version, text⟩) {σ : Type} (host : Host σ) {state : σ}
    (calm : (host.isCancelled.run state).1 = false) :
    (engine.transact host store file text version.language .auto).run state =
      ((.ok (unchanged version), store), (host.isCancelled.run state).2) := by
  have registry : engine.registry.get version.language = .ok processor := by
    rw [Registry.get, registered]
  have same : store.abandoned file = store := by
    refine Store.abandoned_eq_self fun slot found => ?_
    rw [Store.peek?, found, Option.bind_some] at current
    rw [current, Option.isSome_some]
  have built : (engine.build host ⟨file, text, version.language, processor⟩ .auto
      (some ⟨version, text⟩)).run.run state =
        (.ok (unchanged version), (host.isCancelled.run state).2) := by
    have notFull : Request.auto ≠ .full := by decide
    unfold build plan update
    rw [Work.run_bind, Work.run_bind, Host.check_run, calm]
    simp only [if_neg notFull, if_true]
    rfl
  rw [transact_run, registry, current, same]
  simp only [built]
  rfl

/-- Whenever the version of a whole text is current, the text can be parsed again, and everything
stays as it was. -/
theorem Whole.perform {input : SourceInput} {processor : Processor} {extraction : Extraction}
    {version : Version}
    (whole : Whole ⟨input.file, input.text, input.language, processor⟩ extraction version)
    (registered : engine.registry input.language = some processor)
    (processed : processor.process input.text .file = .ok extraction) (compares : engine.Compares)
    (small : input.text.length < Word.signedLimit) {store : Store}
    (current : store.peek? input.file = some ⟨version, input.text⟩) :
    (engine.perform .full store input).1 = .ok ⟨observed version, engine.fullReport
      ⟨input.file, input.text, input.language, processor⟩ (some version) [] .forced extraction⟩ := by
  have sameLanguage : version.language = input.language := by
    obtain ⟨merged, rfl⟩ := whole.made
    rfl
  obtain ⟨answered, _⟩ := engine.perform_eq input.file store ⟨.full, input.text, input.language⟩
  refine answered.trans ?_
  rw [answer, registered, current]
  simp only
  rw [build_forced sameLanguage, compares.bestChanges_self, whole.fullAnswer processed small]

/-- What comes of a text that a file has been brought up to date with, when this is done again. -/
structure Repeats (engine : Engine) (input : SourceInput) (outcome : Outcome) (after : Store) :
    Prop where
  current : after.peek? input.file = some ⟨outcome.version, input.text⟩
  /-- Without anybody insisting nothing happens, whatever processors might answer. -/
  known : ∀ {σ : Type} (host : Host σ) (state : σ), (host.isCancelled.run state).1 = false →
    (engine.transact host after input.file input.text input.language .auto).run state =
      ((.ok (unchanged outcome.version), after), (host.isCancelled.run state).2)
  /-- A version that comes from the whole text stays the same, up to the numbers to come, when the
  text is parsed again while the version is current. -/
  forced : outcome.report.mode = .full → engine.Compares →
    input.text.length < Word.signedLimit →
    ∀ store : Store, store.peek? input.file = some ⟨outcome.version, input.text⟩ →
      ∃ repeated, (engine.perform .full store input).1 = .ok repeated ∧
        repeated.version = { outcome.version with
          lineage := { outcome.version.lineage with
            ordinals := repeated.version.lineage.ordinals } } ∧
        repeated.report.mode = .full ∧ repeated.report.reusedIds = outcome.version.ids ∧
        repeated.report.allocatedIds = []

/-- Bringing a file up to date a second time changes nothing. -/
theorem perform_repeats (engine : Engine) (request : Request) (store : Store) (input : SourceInput)
    {outcome : Outcome} (given : (engine.perform request store input).1 = .ok outcome) :
    Repeats engine input outcome (engine.perform request store input).2 := by
  obtain ⟨result, left⟩ :=
    engine.perform_eq input.file store ⟨request, input.text, input.language⟩
  have done := result.symm.trans given
  have current := left.trans (remaining_of_ok done)
  rcases engine.answer_cases input.file (store.peek? input.file)
    ⟨request, input.text, input.language⟩ with ⟨_, failed⟩ | ⟨processor, registered, answered⟩
  · rw [failed] at done
    cases done
  · rw [done] at answered
    have sameLanguage : outcome.version.language = input.language := answered.version_of_ok.1
    refine ⟨current, fun host state calm => ?_, fun mode compares small later isCurrent => ?_⟩
    · rw [← sameLanguage] at registered ⊢
      exact transact_known registered current host calm
    · obtain ⟨extraction, processed, whole⟩ := answered.whole mode compares small
      refine ⟨_, whole.perform registered processed compares small isCurrent,
        Whole.observed_eq outcome.version, rfl, ?_, ?_⟩
      · rw [fullReport, whole.fullMerge small]
      · rw [fullReport, whole.fullMerge small]

theorem exists_ok_of_map {α β : Type} {result : Except Error α} {view : α → β} {shown : β}
    (checked : result.toOption.map view = some shown) :
    ∃ value, result = .ok value ∧ view value = shown := by
  cases result with
  | error error => cases checked
  | ok value => exact ⟨value, rfl, Option.some.inj checked⟩

/-- A file loses its only line and gets another one, whose id is a new one while the old one is
remembered. When the text is parsed again, the line keeps its id and the other one is still
remembered. -/
theorem perform_repeats_linewise :
    let engine := { linewise (fun _ => .function) fun _ => "line" with
      settings := Settings.forUseCase .batchIngest }
    let store := engine.after (.empty (some 1))
      [(.auto, ⟨"notes", "a\n", .python⟩), (.auto, ⟨"notes", "", .python⟩)]
    let input : SourceInput := ⟨"notes", "b\n", .python⟩
    let after := (engine.perform .auto store input).2
    ∃ outcome repeated, (engine.perform .auto store input).1 = .ok outcome ∧
      (engine.perform .full after input).1 = .ok repeated ∧
      (outcome.version.ids = ["notes::function::line#1"] ∧
        outcome.version.lineage.tombstones.map Tombstone.id = ["notes::function::line"]) ∧
      (repeated.version.chunks = outcome.version.chunks ∧
        repeated.version.lineage.tombstones = outcome.version.lineage.tombstones ∧
        repeated.report.allocatedIds = []) ∧
      Repeats engine input outcome after := by
  intro engine store input after
  have checked : (engine.perform .auto store input).1.toOption.map (fun outcome =>
      (outcome.report.mode, outcome.version.ids,
        outcome.version.lineage.tombstones.map Tombstone.id)) =
        some (.full, ["notes::function::line#1"], ["notes::function::line"]) := by
    decide +kernel
  obtain ⟨outcome, given, shown⟩ := exists_ok_of_map checked
  obtain ⟨mode, ids, tombstones⟩ : outcome.report.mode = .full ∧ _ ∧ _ := by
    simpa only [Prod.mk.injEq] using shown
  have repeats := engine.perform_repeats .auto store input given
  obtain ⟨repeated, again, same, _, _, allocated⟩ := repeats.forced mode
    (compares_of_detect fun _ _ => ⟨.ample, rfl⟩) (by decide) after repeats.current
  refine ⟨outcome, repeated, given, again, ⟨ids, tombstones⟩, ⟨?_, ?_, allocated⟩, repeats⟩
  · rw [same]
  · rw [same]

end Engine

end Chunking
