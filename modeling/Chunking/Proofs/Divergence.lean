/-
Where following a text and parsing it anew part ways. What the two find in a text is
the same whenever both have a result, but there are calls that have none although a
first parse of their text has one: because an id would occur twice or a number does not
fit, or because a comparison or a window ends in an error after which the whole text is
not tried. The other way round, a call that has not to parse the whole text does not
notice what a first parse would fail for. These are all reasons there are, so it is
known exactly when a call comes to the same as a first parse. That the two part is not
a matter of odd processors: it happens to lines that are named by themselves.
-/

import Chunking.Proofs.CallMerges
import Chunking.Proofs.Equivalence
import Chunking.Proofs.Succession

namespace Chunking

/-! ### Ids of a first parse -/

namespace Merge

/-- Where no dropped chunk can be claimed, all ids differ. -/
theorem Hands.nodup {matching : IdMatching} {live : List String} {grants : List Grant}
    (hands : Hands matching live [] grants) :
    (grants.map Grant.id).Nodup ∧ ∀ grant ∈ grants, grant.id ∉ live := by
  generalize nobody : ([] : List Invalidated) = unclaimed at hands
  induction hands with
  | done => exact ⟨List.nodup_nil, by simp⟩
  | claim => simp at nobody
  | @renew live _ construct source grants _ _ unused _ inductionHypothesis =>
    obtain ⟨distinct, apart⟩ := inductionHypothesis nobody
    simp only [List.mem_cons, not_or] at apart
    refine ⟨List.nodup_cons.mpr ⟨fun member => ?_, distinct⟩,
      List.forall_mem_cons.mpr ⟨unused, fun grant member => (apart grant member).2⟩⟩
    obtain ⟨grant, among, same⟩ := List.mem_map.mp member
    exact (apart grant among).1 same

/-- Without old chunks, all ids of a merge differ, whatever the names are. -/
theorem nodup_merge_of_new (policy : Policy) (fresh : List FreshChunk) (lineage : Lineage)
    (changes : List LineChange) :
    ((merge policy [] fresh [] lineage changes).chunks.map Chunk.id).Nodup := by
  obtain ⟨grants, granted, hands⟩ := merge_hands policy [] fresh [] lineage changes
  have nobody : (dropped [] fresh []).mergeSort (·.mappedLine ≤ ·.mappedLine) = [] :=
    List.mergeSort_nil
  rw [nobody] at hands
  refine (granted.chunks.map Chunk.id).nodup_iff.mpr ?_
  rw [kept, List.filter_nil, List.nil_append, List.map_map]
  exact hands.nodup.1

end Merge

/-! ### Calls with a result -/

/-- The call that has the same text parsed as a whole. -/
def Call.whole (call : Call) : Call :=
  ⟨.full, call.text, call.language⟩

/-- What is to be done for a call. -/
abbrev Call.job (call : Call) (file : String) (processor : Processor) : Job :=
  ⟨file, call.text, call.language, processor⟩

namespace Engine

variable (engine : Engine) (file : String) (prior : Option Snapshot) (call : Call)

/-- The program does not stop over a call, and the call has a result. -/
def Yields (outcome : Outcome) : Prop :=
  engine.Fits file prior call ∧ engine.answer file prior call = .ok outcome

/-- The processor has no trouble with the text of a call, and its outline is in order. -/
def Divides : Prop :=
  ∃ processor extraction, engine.registry call.language = some processor ∧
    processor.process call.text .file = .ok extraction ∧
    extraction.outline.Pairwise fun left right => left.startLine ≤ right.startLine

/-- A call comes to the same as a first parse of its text: both have results that agree, or none of
them has a result. -/
def SameAsFirst : Prop :=
  (∃ outcome first, engine.Yields file prior call outcome ∧
    engine.Yields file none call.whole first ∧ outcome.version.Agrees call.text first.version) ∨
  (∀ outcome, ¬ engine.Yields file prior call outcome) ∧
    ∀ first, ¬ engine.Yields file none call.whole first

/-- What stands in the way of a call although the processor has no trouble with its text. -/
inductive Hindered : Prop where
  /-- A number does not fit. -/
  | overflow {input : Merge.Input} (merged : engine.callInput? file prior call = some input)
      (great : input.overflows = true)
  /-- An id would occur twice. -/
  | duplicate {input : Merge.Input} (merged : engine.callInput? file prior call = some input)
      (twice : ¬ (input.outcome.chunks.map Chunk.id).Nodup)
  /-- The text cannot be compared with the one before, and is not parsed as a whole either. -/
  | comparison {snapshot : Snapshot} {processor : Processor} {error : Error}
      (known : prior = some snapshot) (registered : engine.registry call.language = some processor)
      (updates : Updates (call.job file processor) call.request snapshot)
      (failed : engine.detect snapshot.text call.text = .error error)
      (fatal : error.isRecoverable = false)
  /-- A window cannot be parsed, and the text is not parsed as a whole either. -/
  | window {snapshot : Snapshot} {processor : Processor} {changes : List LineChange}
      {windows : List LineRange} {error : Error} (known : prior = some snapshot)
      (registered : engine.registry call.language = some processor)
      (parted : Parted engine (call.job file processor) call.request snapshot changes windows)
      (broken : Broken (call.job file processor) windows error)

/-- Windows are parsed instead of the whole text of a call, and all of them can be. -/
def Patches : Prop :=
  ∃ snapshot processor changes windows, prior = some snapshot ∧
    engine.registry call.language = some processor ∧
    Parted engine (call.job file processor) call.request snapshot changes windows ∧
    ∀ window ∈ windows, ∃ extraction, processor.process
      ((LineIndex.ofText call.text).slice window.start window.stop) .window = .ok extraction

/-- How a call comes to a result. -/
inductive Feasible : Prop where
  /-- The text is known, so that nothing is parsed. -/
  | known {snapshot : Snapshot} {processor : Processor} (known : prior = some snapshot)
      (registered : engine.registry call.language = some processor) (auto : call.request = .auto)
      (sameLanguage : snapshot.version.language = call.language)
      (sameText : snapshot.text = call.text)
  /-- What is merged can be merged, and either the whole text can be parsed or it need not be. -/
  | merge {input : Merge.Input} (merged : engine.callInput? file prior call = some input)
      (fits : input.overflows = false) (distinct : (input.outcome.chunks.map Chunk.id).Nodup)
      (parsed : engine.Divides call ∨ engine.Patches file prior call)

variable {engine file prior call} {processor : Processor}

theorem answer_eq (registered : engine.registry call.language = some processor) :
    engine.answer file prior call =
      (engine.plan Host.plain (call.job file processor) call.request prior).result.bind
        (·.conclude (call.job file processor)) := by
  rw [answer, registered]
  exact engine.build_result _ call.request prior

theorem callInput?_eq (registered : engine.registry call.language = some processor) :
    engine.callInput? file prior call =
      (engine.plan Host.plain (call.job file processor) call.request prior).result.toOption.bind
        Plan.input? := by
  rw [callInput?, registered]
  rfl

/-- A call that comes to nothing before there is something to be merged has no result. -/
theorem not_yields_of_refused (registered : engine.registry call.language = some processor)
    {error : Error}
    (refused : (engine.plan Host.plain (call.job file processor) call.request prior).result =
      .error error) :
    engine.callInput? file prior call = none ∧ ∀ outcome, ¬ engine.Yields file prior call outcome := by
  rw [callInput?_eq registered, refused]
  refine ⟨rfl, fun outcome yields => ?_⟩
  rw [Yields, answer_eq registered, refused] at yields
  cases yields.2

/-- A call with something to be merged has a result just if the merge can be carried out and what
becomes of it is valid. -/
theorem yields_iff_of_merge (registered : engine.registry call.language = some processor)
    {making : Making}
    (planned : (engine.plan Host.plain (call.job file processor) call.request prior).result =
      .ok (.merge making)) :
    engine.callInput? file prior call = some making.input ∧
      ((∃ outcome, engine.Yields file prior call outcome) ↔ making.input.overflows = false ∧
        ((call.job file processor).version making.input.outcome making.outline
          making.recovered).Valid call.text) := by
  have merged : engine.callInput? file prior call = some making.input := by
    rw [callInput?_eq registered, planned]
    rfl
  have answered : engine.answer file prior call = (call.job file processor).checked
      ((call.job file processor).version making.input.outcome making.outline making.recovered)
      (making.report making.input.outcome) := by
    rw [answer_eq registered, planned]
    exact Plan.conclude_merge making _
  refine ⟨merged, ?_⟩
  simp only [Yields, Fits, merged, answered]
  constructor
  · rintro ⟨outcome, fits, given⟩
    exact ⟨fits _ rfl, (Job.checked_valid given).2⟩
  · rintro ⟨fits, valid⟩
    exact ⟨_, fun input same => Option.some.inj same ▸ fits, checked_of_valid valid _⟩

theorem planned_of_callInput? {input : Merge.Input}
    (merged : engine.callInput? file prior call = some input) : ∃ processor making,
    engine.registry call.language = some processor ∧
      (engine.plan Host.plain (call.job file processor) call.request prior).result =
        .ok (.merge making) ∧ making.input = input := by
  cases registered : engine.registry call.language with
  | none =>
    rw [callInput?, registered] at merged
    cases merged
  | some processor =>
    rw [callInput?_eq registered] at merged
    cases planned : (engine.plan Host.plain (call.job file processor) call.request prior).result with
    | error error =>
      rw [planned] at merged
      cases merged
    | ok plan =>
      rw [planned] at merged
      cases plan with
      | keep => cases merged
      | merge making =>
        exact ⟨processor, making, rfl, planned, Option.some.inj merged⟩

/-- A text that is known makes no work. -/
theorem yields_known {snapshot : Snapshot} (known : prior = some snapshot)
    (registered : engine.registry call.language = some processor) (auto : call.request = .auto)
    (sameLanguage : snapshot.version.language = call.language)
    (sameText : snapshot.text = call.text) :
    engine.Yields file prior call (unchanged snapshot.version) := by
  subst known
  have planned : (engine.plan Host.plain (call.job file processor) call.request
      (some snapshot)).result = .ok (.keep snapshot.version) := by
    rw [auto]
    exact plan_known sameLanguage sameText
  rw [Yields, Fits, callInput?_eq registered, answer_eq registered, planned]
  exact ⟨nofun, rfl⟩

/-- What was found in windows is merged with the rest. -/
theorem Patches.plan (patches : engine.Patches file prior call)
    (registered : engine.registry call.language = some processor) : ∃ making,
    (engine.plan Host.plain (call.job file processor) call.request prior).result =
      .ok (.merge making) ∧ making.mode = .incremental := by
  obtain ⟨snapshot, _, changes, windows, rfl, known, parted, parsed⟩ := patches
  cases registered.symm.trans known
  rw [plan_parted parted]
  rcases parseWindows_cases (call.job file processor) windows with ⟨found, _, given⟩ |
    ⟨error, _, ⟨window, member, failed⟩, _⟩ | ⟨error, ⟨_, before, window, after, rfl, _, failed⟩, _⟩
  · rw [given]
    exact ⟨_, rfl, rfl⟩
  · obtain ⟨_, processed⟩ := parsed window member
    cases failed.symm.trans processed
  · obtain ⟨_, processed⟩ := parsed window (by simp)
    cases failed.symm.trans processed

/-! ### First parses -/

/-- A first parse has a result if the processor has no trouble with the text, its outline is in order
and there are enough numbers. -/
theorem yields_first_iff
    (compositional : ∀ processor, engine.registry call.language = some processor →
      processor.Compositional) :
    (∃ first, engine.Yields file none call.whole first) ↔
      engine.Divides call ∧ engine.Fits file none call.whole := by
  cases registered : engine.registry call.language with
  | none =>
    refine iff_of_false ?_ ?_
    · rintro ⟨first, _, given⟩
      rw [answer, Call.whole, registered] at given
      cases given
    · rintro ⟨⟨processor, _, known, _⟩, _⟩
      cases registered.symm.trans known
  | some processor =>
    have registeredWhole : engine.registry call.whole.language = some processor := registered
    have planned := engine.plan_none (call.job file processor) .full
    rw [fullParse_result] at planned
    cases processed : processor.process call.text .file with
    | error error =>
      rw [processed] at planned
      refine iff_of_false ?_ ?_
      · rintro ⟨first, yields⟩
        exact (not_yields_of_refused registeredWhole planned).2 first yields
      · rintro ⟨⟨_, _, known, found, _⟩, _⟩
        cases registered.symm.trans known
        cases processed.symm.trans found
    | ok extraction =>
      rw [processed] at planned
      obtain ⟨merged, yields⟩ := yields_iff_of_merge registeredWhole planned
      rw [yields, Fits, merged, and_comm]
      refine and_congr ⟨fun valid => ?_, ?_⟩ ⟨fun fits input same => ?_, fun fits => fits _ rfl⟩
      · exact ⟨processor, extraction, registered, processed, valid.nodesOrdered⟩
      · rintro ⟨_, _, known, found, ordered⟩
        cases registered.symm.trans known
        cases processed.symm.trans found
        have valid : ((call.job file processor).version (engine.fullMerge (call.job file processor)
            none [] extraction) extraction.outline extraction.recovered).Valid call.text :=
          valid_full ((compositional processor registered).nodesFit processed) ordered
            (Merge.nodup_merge_of_new _ _ _ _)
        exact valid
      · cases same
        exact fits

/-- The result for a file that is not known yet. -/
theorem answer_new {extraction : Extraction}
    (registered : engine.registry call.language = some processor)
    (processed : processor.process call.text .file = .ok extraction)
    (outlines : processor.Outlines) :
    engine.answer file none call = .ok
      { version := (call.job file processor).version
          (engine.fullMerge (call.job file processor) none [] extraction) extraction.outline
          extraction.recovered
        report := engine.fullReport (call.job file processor) none [] .noPrior extraction } := by
  obtain ⟨fit, ordered⟩ := outlines processed
  have valid : ((call.job file processor).version (engine.fullMerge (call.job file processor)
      none [] extraction) extraction.outline extraction.recovered).Valid call.text :=
    valid_full fit ordered (Merge.nodup_merge_of_new _ _ _ _)
  rw [answer, registered]
  simp only
  rw [build_none, fullAnswer, processed]
  exact checked_of_valid valid _

/-! ### Calls of a run -/

/-- What is known of the snapshot at every moment of a run. -/
structure Current (engine : Engine) (file : String) (calls : List Call) (prior : Option Snapshot) :
    Prop where
  followed : Followed engine file calls prior
  valid : ∀ snapshot ∈ prior, snapshot.version.Valid snapshot.text
  reached : engine.Dependable → Reached file (fun _ name => ¬ ChunkId.Numbered name) calls prior

/-- Every result is valid, as it has been checked. -/
theorem Current.valid_answer {calls : List Call} (current : Current engine file calls prior)
    {outcome : Outcome} (given : engine.answer file prior call = .ok outcome) :
    outcome.version.Valid call.text := by
  rcases engine.answer_cases file prior call with ⟨_, failed⟩ | ⟨processor, _, answered⟩
  · cases failed.symm.trans given
  rw [given] at answered
  generalize given : Except.ok outcome = result at answered
  cases answered with
  | @unchanged snapshot known _ sameText =>
    cases given
    have valid := current.valid snapshot known
    rw [sameText] at valid
    exact valid
  | refused => cases given
  | full =>
    obtain ⟨same, valid⟩ := Job.checked_valid given.symm
    exact same ▸ valid
  | windows =>
    obtain ⟨same, valid⟩ := Job.checked_valid given.symm
    exact same ▸ valid

section runs

variable {calls : List Call}
  (compositional : ∀ call ∈ calls, ∀ processor, engine.registry call.language = some processor →
    processor.Compositional)
  (small : ∀ call ∈ calls, (LineIndex.ofText call.text).size < Word.signedLimit)
  (scripts : ∀ call ∈ calls, ∀ later ∈ calls, ∀ changes,
    engine.detect call.text later.text = .ok changes → IsEditScript changes call.text later.text)

include compositional small scripts

theorem Current.remaining (current : Current engine file calls prior) (member : call ∈ calls) :
    Current engine file calls (remaining prior call (engine.answer file prior call)) := by
  refine ⟨current.followed.remaining compositional small scripts member, ?_, fun dependable =>
    (current.reached dependable).remaining ChunkId.readable_of_not_numbered dependable.plain
      dependable.outlines small scripts member⟩
  cases given : engine.answer file prior call with
  | error error => exact current.valid
  | ok outcome =>
    rw [← given, remaining_of_ok given]
    rintro snapshot ⟨⟩
    exact current.valid_answer given

/-- What is merged leads to a valid version as soon as no id occurs twice: the outline is in order if
the whole text can be parsed, and is put in order if it need not be. -/
theorem Current.valid_merge (current : Current engine file calls prior) (member : call ∈ calls)
    (registered : engine.registry call.language = some processor) {making : Making}
    (planned : (engine.plan Host.plain (call.job file processor) call.request prior).result =
      .ok (.merge making))
    (parsed : engine.Divides call ∨ engine.Patches file prior call)
    (distinct : (making.input.outcome.chunks.map Chunk.id).Nodup) :
    ((call.job file processor).version making.input.outcome making.outline
      making.recovered).Valid call.text := by
  have pieces := compositional call member processor registered
  have ways := engine.planned_plan (call.job file processor) call.request prior
  rw [planned] at ways
  generalize given : Except.ok (Plan.merge making) = result at ways
  cases ways with
  | unchanged => cases given
  | comparison => cases given
  | window => cases given
  | parse => cases given
  | @full extraction changes reason processed compared =>
    cases given
    have ordered : extraction.outline.Pairwise fun left right =>
        left.startLine ≤ right.startLine := by
      rcases parsed with ⟨_, _, known, found, ordered⟩ | patches
      · cases registered.symm.trans known
        cases processed.symm.trans found
        exact ordered
      · obtain ⟨making, windowed, incremental⟩ := patches.plan registered
        cases planned.symm.trans windowed
        cases incremental
    have valid : ((call.job file processor).version (engine.fullMerge (call.job file processor)
        (inherited (call.job file processor) prior) changes extraction) extraction.outline
        extraction.recovered).Valid call.text :=
      valid_full (pieces.nodesFit processed) ordered distinct
    exact valid
  | @windows snapshot changes resolution windows swallowed found known parted windowed foundIn =>
    cases given
    have valid : ((call.job file processor).version (engine.windowMerge (call.job file processor)
        snapshot.version changes resolution found)
        (carryOutline snapshot.version.outline changes windows found.outline) false).Valid call.text :=
      valid_windows (fun _ _ processed => pieces.nodesFit processed) (current.valid snapshot known)
        (current.followed.2.scripts member scripts snapshot known changes parted.detected)
        (current.followed.2.small small snapshot known) (small call member) windowed foundIn distinct
    exact valid

/-- Where the processor has no trouble with a text, a call for it has a result if there is nothing in
its way. -/
theorem Current.not_yields_iff (current : Current engine file calls prior) (member : call ∈ calls)
    (divides : engine.Divides call) :
    (∀ outcome, ¬ engine.Yields file prior call outcome) ↔ engine.Hindered file prior call := by
  constructor
  · intro nothing
    have ⟨processor, extraction, registered, processed, _⟩ := divides
    have ways := engine.planned_plan (call.job file processor) call.request prior
    -- A merge is carried out unless a number does not fit or an id occurs twice.
    have blocked {making : Making}
        (planned : (engine.plan Host.plain (call.job file processor) call.request prior).result =
          .ok (.merge making)) : engine.Hindered file prior call := by
      obtain ⟨merged, yields⟩ := yields_iff_of_merge registered planned
      cases fits : making.input.overflows with
      | true => exact .overflow merged fits
      | false =>
        refine .duplicate merged fun distinct => ?_
        obtain ⟨outcome, given⟩ := yields.mpr ⟨fits, current.valid_merge compositional small scripts
          member registered planned (Or.inl divides) distinct⟩
        exact nothing outcome given
    generalize given : (engine.plan Host.plain (call.job file processor) call.request prior).result =
      result at ways
    cases ways with
    | unchanged known auto sameLanguage sameText =>
      exact absurd (yields_known known registered auto sameLanguage sameText) (nothing _)
    | comparison known updates failed fatal =>
      exact .comparison known registered updates failed fatal
    | window known parted broken => exact .window known registered parted broken
    | parse failed => cases failed.symm.trans processed
    | full => exact blocked given
    | windows => exact blocked given
  · rintro hindered outcome ⟨fits, given⟩
    cases hindered with
    | overflow merged great => cases (fits _ merged).symm.trans great
    | duplicate merged twice =>
      have valid := current.valid_answer given
      rw [(version_of_callInput? merged given).1.symm] at twice
      exact twice valid.distinct
    | comparison known registered updates failed fatal =>
      subst known
      exact (not_yields_of_refused registered (plan_comparison updates failed fatal)).2 outcome
        ⟨fits, given⟩
    | @window snapshot processor _ _ error known registered parted broken =>
      subst known
      have refused : (engine.plan Host.plain (call.job file processor) call.request
          (some snapshot)).result = .error error := by
        rw [plan_parted parted, parseWindows_broken _ broken]
        rfl
      exact (not_yields_of_refused registered refused).2 outcome ⟨fits, given⟩

/-- There is no other way to a result than to know the text or to parse what is needed of it. -/
theorem Current.yields_iff (current : Current engine file calls prior) (member : call ∈ calls) :
    (∃ outcome, engine.Yields file prior call outcome) ↔ engine.Feasible file prior call := by
  constructor
  · rintro ⟨outcome, yields⟩
    rcases engine.answer_cases file prior call with ⟨_, failed⟩ | ⟨processor, registered, _⟩
    · cases failed.symm.trans yields.2
    have ways := engine.planned_plan (call.job file processor) call.request prior
    generalize given : (engine.plan Host.plain (call.job file processor) call.request prior).result =
      result at ways
    cases ways with
    | unchanged known auto sameLanguage sameText =>
      exact .known known registered auto sameLanguage sameText
    | comparison => exact absurd yields ((not_yields_of_refused registered given).2 outcome)
    | window => exact absurd yields ((not_yields_of_refused registered given).2 outcome)
    | parse => exact absurd yields ((not_yields_of_refused registered given).2 outcome)
    | @full extraction changes reason processed compared =>
      obtain ⟨merged, carried⟩ := yields_iff_of_merge registered given
      obtain ⟨fits, valid⟩ := carried.mp ⟨outcome, yields⟩
      exact .merge merged fits valid.distinct
        (Or.inl ⟨processor, extraction, registered, processed, valid.nodesOrdered⟩)
    | @windows snapshot changes resolution windows swallowed found known parted windowed foundIn =>
      obtain ⟨merged, carried⟩ := yields_iff_of_merge registered given
      obtain ⟨fits, valid⟩ := carried.mp ⟨outcome, yields⟩
      exact .merge merged fits valid.distinct (Or.inr ⟨snapshot, processor, changes, windows, known,
        registered, parted, foundIn.processed⟩)
  · intro feasible
    cases feasible with
    | known known registered auto sameLanguage sameText =>
      exact ⟨_, yields_known known registered auto sameLanguage sameText⟩
    | merge merged fits distinct parsed =>
      obtain ⟨processor, making, registered, planned, rfl⟩ := planned_of_callInput? merged
      exact (yields_iff_of_merge registered planned).2.mpr ⟨fits, current.valid_merge compositional
        small scripts member registered planned parsed distinct⟩

/-- A call comes to the same as a first parse just if nothing stands in its way when the first parse
has a result, and there is no way to a result when the first parse has none. -/
theorem Current.same_iff (current : Current engine file calls prior) (member : call ∈ calls) :
    engine.SameAsFirst file prior call ↔
      (engine.Divides call ∧ engine.Fits file none call.whole → ¬ engine.Hindered file prior call) ∧
      (engine.Feasible file prior call → engine.Divides call ∧ engine.Fits file none call.whole) := by
  have first := @yields_first_iff engine file call (compositional call member)
  have own := current.yields_iff compositional small scripts member
  rw [← first, ← own]
  constructor
  · rintro (⟨outcome, parsed, given, firstGiven, _⟩ | ⟨nothing, firstNothing⟩)
    · refine ⟨fun _ hindered => ?_, fun _ => ⟨parsed, firstGiven⟩⟩
      have divides := (first.mp ⟨parsed, firstGiven⟩).1
      exact (current.not_yields_iff compositional small scripts member divides).mpr hindered outcome
        given
    · exact ⟨fun ⟨parsed, given⟩ => absurd given (firstNothing parsed),
        fun ⟨outcome, given⟩ => absurd given (nothing outcome)⟩
  · rintro ⟨free, closed⟩
    by_cases firstYields : ∃ parsed, engine.Yields file none call.whole parsed
    · obtain ⟨parsed, firstGiven⟩ := firstYields
      have divides := (first.mp ⟨parsed, firstGiven⟩).1
      have yields : ∃ outcome, engine.Yields file prior call outcome := by
        by_contra nothing
        exact free ⟨parsed, firstGiven⟩ ((current.not_yields_iff compositional small scripts member
          divides).mp (not_exists.mp nothing))
      obtain ⟨outcome, given⟩ := yields
      exact Or.inl ⟨outcome, parsed, given, firstGiven, current.followed.agrees compositional small
        scripts member given.2 ((engine.fresh_eq file call).trans firstGiven.2)⟩
    · exact Or.inr ⟨not_exists.mp fun yields => firstYields (closed yields),
        not_exists.mp firstYields⟩

end runs

/-- How a call on a file that is followed and a first parse of its text compare. -/
structure Faithful (engine : Engine) (file : String) (prior : Option Snapshot) (call : Call) :
    Prop where
  agrees : ∀ outcome first, engine.answer file prior call = .ok outcome →
    engine.fresh file call = .ok first → outcome.version.Agrees call.text first.version
  shows : ∀ outcome, engine.answer file prior call = .ok outcome → call.text ≠ "" →
    ∃ processor extraction, engine.registry call.language = some processor ∧
      processor.process call.text .file = .ok extraction ∧
      outcome.version.Shows call.text extraction
  yields_iff : (∃ outcome, engine.Yields file prior call outcome) ↔ engine.Feasible file prior call
  first_iff : (∃ first, engine.Yields file none call.whole first) ↔
    engine.Divides call ∧ engine.Fits file none call.whole
  same_iff : engine.SameAsFirst file prior call ↔
    (engine.Divides call ∧ engine.Fits file none call.whole → ¬ engine.Hindered file prior call) ∧
    (engine.Feasible file prior call → engine.Divides call ∧ engine.Fits file none call.whole)
  fails : engine.Dependable → call.text ≠ "" → ∀ error,
    engine.answer file prior call = .error error ↔ engine.fresh file call = .error error

/-- If parts of texts can be processed on their own, following a file through a run of calls never
contradicts first parses of its texts, and it is known when only one of the two has a result. -/
theorem moments_faithful (engine : Engine) (file : String)
    (store : Store) (new : store.peek? file = none) (calls : List Call)
    (compositional : ∀ call ∈ calls, ∀ processor, engine.registry call.language = some processor →
      processor.Compositional)
    (small : ∀ call ∈ calls, (LineIndex.ofText call.text).size < Word.signedLimit)
    (scripts : ∀ call ∈ calls, ∀ later ∈ calls, ∀ changes,
      engine.detect call.text later.text = .ok changes → IsEditScript changes call.text later.text) :
    ∀ moment ∈ engine.moments file store calls, engine.Faithful file moment.1 moment.2 := by
  have start : Current engine file calls (store.peek? file) := by
    rw [new]
    exact ⟨⟨nofun, nofun⟩, nofun, fun _ => ⟨nofun, nofun⟩⟩
  have holds := engine.moments_invariant file (Current engine file calls)
    (fun moment _ member current => current.remaining compositional small scripts member) start
  intro moment among
  obtain ⟨member, current⟩ := holds moment among
  exact
    { agrees := fun outcome first given firstGiven =>
        current.followed.agrees compositional small scripts member given firstGiven
      shows := fun outcome given =>
        current.followed.shows compositional small scripts member given
      yields_iff := current.yields_iff compositional small scripts member
      first_iff := yields_first_iff (compositional _ member)
      same_iff := current.same_iff compositional small scripts member
      fails := fun dependable => dependable.fails compositional small scripts current.followed
        (current.reached dependable).1 member }

/-- A line is added behind two lines, and is found without parsing the whole text. -/
theorem moments_faithful_linewise :
    let engine := linewise (fun _ => .function) fun _ => "line"
    (∃ prior outcome, (prior, ⟨.auto, "a\nb\nc\n", .python⟩) ∈ engine.moments "notes" {} addedLine ∧
      engine.answer "notes" prior ⟨.auto, "a\nb\nc\n", .python⟩ = .ok outcome ∧
      outcome.report.mode = .incremental) ∧
    ∀ moment ∈ engine.moments "notes" {} addedLine, engine.Faithful "notes" moment.1 moment.2 := by
  intro engine
  refine ⟨addedLine_incremental, moments_faithful engine "notes" {} rfl addedLine ?_ addedLine_small
    addedLine_scripts⟩
  rintro call _ _ ⟨⟩
  exact Processor.lines_compositional _ _ _

/-! ### A call that has no result -/

/-- An engine for which every line is a function with the line as its name. -/
def verbatim : Engine :=
  { settings := default
    registry := fun language => some (.lines language .function id) }

/-- A line that ends in a number, and then two lines before it of which the second one is given that
number. -/
def lookalikes : List Call :=
  [⟨.auto, "a#1\n", .python⟩, ⟨.auto, "a\na\na#1\n", .python⟩]

theorem detect_lookalikes : ∀ call ∈ lookalikes, ∀ later ∈ lookalikes, ∃ changes,
    verbatim.detect call.text later.text = .ok changes ∧
      IsEditScript changes call.text later.text := by
  have detects : verbatim.detect = Diff.detect .ample := rfl
  have short : (LineIndex.ofText "a#1\n").rows = ["a#1\n"] := by decide
  have long : (LineIndex.ofText "a\na\na#1\n").rows = ["a\n", "a\n", "a#1\n"] := by decide
  rw [detects]
  simp only [lookalikes, List.mem_cons, List.not_mem_nil, or_false, forall_eq_or_imp, forall_eq]
  refine ⟨⟨detect_self _, [⟨⟨0, 0⟩, ⟨0, 2⟩⟩], rfl, ?_⟩, ⟨[⟨⟨0, 2⟩, ⟨0, 0⟩⟩], rfl, ?_⟩,
    detect_self _⟩
  · rw [IsEditScript, short, long]
    exact .change [] [] ["a\n", "a\n"] (.done _ _ ["a#1\n"])
  · rw [IsEditScript, short, long]
    exact .change [] ["a\n", "a\n"] [] (.done _ _ ["a#1\n"])

namespace Verbatim

def job (text : String) : Job :=
  ⟨"notes", text, .python, .lines .python .function id⟩

/-- What is merged after a parse of a whole text. -/
def input (base : Option Version) (changes : List LineChange) (text : String) : Merge.Input :=
  verbatim.fullInput (job text) base changes (.ofLines .function id text)

/-- The version of a text that is parsed for the first time. -/
def version (text : String) : Version :=
  (job text).version (input none [] text).outcome (Extraction.ofLines .function id text).outline
    false

theorem input_row (base : Option Version) (changes : List LineChange) (text : String) :
    FreshChunk.dropOverlapping (input base changes text).fresh = (input base changes text).fresh := by
  have processed : (job text).processor.process text .file = .ok (.ofLines .function id text) := rfl
  obtain ⟨fit, row⟩ := Processor.lines_tidy .python .function id processed
  exact Job.dropOverlapping_freshChunks fit row

/-- A first parse of the three lines needs few numbers. -/
theorem overflows_first : (input none [] "a\na\na#1\n").overflows = false := by
  rw [Merge.Input.overflows, Merge.Input.sums_of_row (input_row _ _ _),
    Merge.Input.closed_of_row (input_row _ _ _)]
  decide +kernel

/-- So does a parse after one of the line alone. -/
theorem overflows_next :
    (input (some (version "a#1\n")) [⟨⟨0, 0⟩, ⟨0, 2⟩⟩] "a\na\na#1\n").overflows = false := by
  rw [Merge.Input.overflows, Merge.Input.sums_of_row (input_row _ _ _),
    Merge.Input.closed_of_row (input_row _ _ _)]
  decide +kernel

/-- The id that the second line is given is the one that the third line takes over. -/
theorem twice : ¬ ((input (some (version "a#1\n")) [⟨⟨0, 0⟩, ⟨0, 2⟩⟩]
    "a\na\na#1\n").outcome.chunks.map Chunk.id).Nodup := by
  intro distinct
  have closed := Merge.Input.nodup_closed _ distinct
  rw [Merge.Input.closed_of_row (input_row _ _ _)] at closed
  revert closed
  decide +kernel

theorem planned : (verbatim.plan Host.plain (job "a\na\na#1\n") .auto
    (some ⟨version "a#1\n", "a#1\n"⟩)).result =
      .ok (.merge (verbatim.fullMaking (job "a\na\na#1\n") (some (version "a#1\n"))
        [⟨⟨0, 0⟩, ⟨0, 2⟩⟩] (.tooManyInvalidated 1 1) (.ofLines .function id "a\na\na#1\n"))) := by
  have updates : Updates (job "a\na\na#1\n") .auto ⟨version "a#1\n", "a#1\n"⟩ :=
    ⟨rfl, rfl, by decide, rfl⟩
  have scope : (Resolution.resolve (job "a\na\na#1\n").processor.isBoundary verbatim.settings
      (version "a#1\n") [⟨⟨0, 0⟩, ⟨0, 2⟩⟩] (job "a\na\na#1\n").index).scope =
        .full (.tooManyInvalidated 1 1) := by decide +kernel
  rw [plan_escalated updates rfl scope, fullParse_result]
  rfl

theorem moments : verbatim.moments "notes" {} lookalikes =
    [(none, ⟨.auto, "a#1\n", .python⟩),
      (some ⟨version "a#1\n", "a#1\n"⟩, ⟨.auto, "a\na\na#1\n", .python⟩)] :=
  verbatim.moments_pair rfl (@answer_new verbatim "notes" ⟨.auto, "a#1\n", .python⟩
    (.lines .python .function id) (.ofLines .function id "a#1\n") rfl rfl
    (Processor.lines_outlines _ _ _))

theorem yields_first :
    ∃ first, verbatim.Yields "notes" none ⟨.full, "a\na\na#1\n", .python⟩ first := by
  have planned : (verbatim.plan Host.plain (job "a\na\na#1\n") .full none).result =
      .ok (.merge (verbatim.fullMaking (job "a\na\na#1\n") none [] .noPrior
        (.ofLines .function id "a\na\na#1\n"))) := by
    rw [plan_none, fullParse_result]
    rfl
  obtain ⟨merged, _⟩ := @yields_iff_of_merge verbatim "notes" none
    ⟨.full, "a\na\na#1\n", .python⟩ (.lines .python .function id) rfl _ planned
  refine ⟨_, fun input same => ?_, answer_new rfl rfl (Processor.lines_outlines .python .function id)⟩
  cases merged.symm.trans same
  exact overflows_first

end Verbatim

/-- A text that has a version when it is parsed for the first time has none when it follows another
one, although all demands are met: the numbers fit, but two lines would have the same id. -/
theorem lookalikes_not_same :
    (∀ language processor, verbatim.registry language = some processor → processor.Compositional) ∧
    (∀ call ∈ lookalikes, ∀ later ∈ lookalikes, ∃ changes,
      verbatim.detect call.text later.text = .ok changes ∧
        IsEditScript changes call.text later.text) ∧
    ∃ moment ∈ verbatim.moments "notes" {} lookalikes,
      verbatim.Fits "notes" moment.1 moment.2 ∧ verbatim.Hindered "notes" moment.1 moment.2 ∧
      (∃ first, verbatim.Yields "notes" none moment.2.whole first) ∧
      ¬ verbatim.SameAsFirst "notes" moment.1 moment.2 := by
  have pieces : ∀ language processor, verbatim.registry language = some processor →
      processor.Compositional := by
    rintro language _ ⟨⟩
    exact Processor.lines_compositional _ _ _
  obtain ⟨merged, yields⟩ := @yields_iff_of_merge verbatim "notes"
    (some ⟨Verbatim.version "a#1\n", "a#1\n"⟩) ⟨.auto, "a\na\na#1\n", .python⟩
    (.lines .python .function id) rfl _ Verbatim.planned
  refine ⟨pieces, detect_lookalikes, (some ⟨Verbatim.version "a#1\n", "a#1\n"⟩,
    ⟨.auto, "a\na\na#1\n", .python⟩), ?_, fun input same => ?_, .duplicate merged Verbatim.twice,
    Verbatim.yields_first, ?_⟩
  · rw [Verbatim.moments]
    exact List.mem_cons_of_mem _ List.mem_cons_self
  · cases merged.symm.trans same
    exact Verbatim.overflows_next
  · rintro (⟨outcome, _, given, _⟩ | ⟨_, nothing⟩)
    · exact Verbatim.twice (yields.mp ⟨outcome, given⟩).2.distinct
    · obtain ⟨first, given⟩ := Verbatim.yields_first
      exact nothing first given

end Engine

end Chunking
