/-
The engine on its own, with processors that are plain functions and nobody who
asks to stop. Its work is then a computation that either fails or gives a result,
and the answer to a call depends on the store only through the snapshot of the
file. What an answer can be is said once here, for each part of the engine;
everything that is proved about whole runs starts from these statements.
-/

import Chunking.Engine
import Chunking.Proofs.Dictionary
import Chunking.Proofs.Resolution

namespace Chunking

/-! ### Work without surroundings -/

/-- The result of work that nothing from outside has a part in. -/
def Work.result {α : Type} (work : Work Unit α) : Except Error α :=
  (work.run.run ()).1

namespace Work

variable {α β : Type}

theorem result_pure (value : α) : result (pure value) = .ok value := rfl

theorem result_throw (error : Error) : result (throw error : Work Unit α) = .error error := rfl

theorem result_lift (value : Except Error α) : result (liftM value : Work Unit α) = value := rfl

theorem result_check (file : String) : (Host.plain.check file).result = .ok () := rfl

theorem result_attempt (processor : Processor) (text : String) (coverage : Coverage) :
    (Host.plain.attempt processor text coverage).result = .ok (processor.process text coverage) := rfl

theorem result_bind (work : Work Unit α) (next : α → Work Unit β) :
    result (work >>= next) = work.result.bind fun value => (next value).result := by
  unfold result ExceptT.run StateT.run
  simp only [bind, ExceptT.bind, ExceptT.mk, StateT.bind]
  cases work () with
  | mk value state => cases value <;> rfl

/-- A check passes at once. -/
theorem result_check_bind (file : String) (next : Unit → Work Unit β) :
    (Host.plain.check file >>= next).result = (next ()).result := by
  rw [result_bind, result_check]
  rfl

theorem result_attempt_bind (processor : Processor) (text : String) (coverage : Coverage)
    (next : Except Error Extraction → Work Unit β) :
    (Host.plain.attempt processor text coverage >>= next).result =
      (next (processor.process text coverage)).result := by
  rw [result_bind, result_attempt]
  rfl

end Work

/-! ### The parts of the engine -/

namespace Job

/-- A version made of its parts, before it is checked. -/
def version (job : Job) (merged : Merge.Outcome) (outline : List Span) (recovered : Bool) :
    Version :=
  { file := job.file
    language := job.language
    textHash := Digest.ofText job.text
    lineCount := job.index.size
    chunks := merged.chunks
    recovered
    lineage := merged.lineage
    outline }

/-- A version handed over for a check against the text, with what was done to get it. -/
def checked (job : Job) (version : Version) (report : Report) : Except Error Outcome :=
  (version.validate (some job.text)).map fun _ => ⟨version, report⟩

theorem checked_eq_ok_iff {job : Job} {version : Version} {report : Report} {outcome : Outcome} :
    job.checked version report = .ok outcome ↔
      version.validate (some job.text) = .ok () ∧ outcome = ⟨version, report⟩ := by
  unfold checked
  cases version.validate (some job.text) with
  | error error => exact ⟨nofun, nofun⟩
  | ok _ => exact ⟨fun given => ⟨rfl, (Except.ok.inj given).symm⟩, fun both => both.2 ▸ rfl⟩

theorem checked_eq_ok {job : Job} {version : Version} {report : Report} {outcome : Outcome}
    (given : job.checked version report = .ok outcome) : outcome = ⟨version, report⟩ :=
  (checked_eq_ok_iff.mp given).2

theorem checked_eq_error_iff {job : Job} {version : Version} {report : Report} {error : Error} :
    job.checked version report = .error error ↔ version.validate (some job.text) = .error error := by
  unfold checked
  cases version.validate (some job.text) with
  | error other => exact ⟨fun given => Except.error.inj given ▸ rfl, fun given => by rw [given]; rfl⟩
  | ok _ => exact ⟨nofun, nofun⟩

end Job

/-- A version that is to be made is handed over for the check. -/
theorem Plan.conclude_merge (making : Making) (job : Job) :
    (Plan.merge making).conclude job =
      job.checked (job.version making.input.outcome making.outline making.recovered)
        (making.report making.input.outcome) := by
  change (((job.version making.input.outcome making.outline making.recovered).validate
    (some job.text)).bind fun _ => .ok _).bind
      (fun version => .ok (Outcome.mk version (making.report making.input.outcome))) =
    ((job.version making.input.outcome making.outline making.recovered).validate
      (some job.text)).map _
  cases (job.version making.input.outcome making.outline making.recovered).validate
    (some job.text) with
  | error error => rfl
  | ok _ => rfl

namespace Engine

variable (engine : Engine) (job : Job)

/-! ### Parsing the whole text -/

/-- The merge after a parse of the whole text; `prior` is the version whose ids are taken over. -/
def fullMerge (prior : Option Version) (changes : List LineChange) (extraction : Extraction) :
    Merge.Outcome :=
  Merge.merge (engine.policy job.file) [] (job.freshChunks extraction.drafts)
    (prior.elim [] fun version => version.chunks.map (Invalidated.ofPrior changes))
    (prior.elim {} Version.lineage) changes

def fullReport (prior : Option Version) (changes : List LineChange) (reason : Escalation)
    (extraction : Extraction) : Report :=
  { mode := .full
    escalation := some reason
    windows := [⟨0, job.index.size⟩]
    reparsed := (job.freshChunks extraction.drafts).length
    reusedIds := (engine.fullMerge job prior changes extraction).reused
    allocatedIds := (engine.fullMerge job prior changes extraction).allocated }

/-- What a parse of the whole text leads to. -/
def fullOutcome (prior : Option Version) (changes : List LineChange) (reason : Escalation)
    (extraction : Extraction) : Except Error Outcome :=
  job.checked (job.version (engine.fullMerge job prior changes extraction) extraction.outline
    extraction.recovered) (engine.fullReport job prior changes reason extraction)

theorem conclude_fullMaking (prior : Option Version) (changes : List LineChange)
    (reason : Escalation) (extraction : Extraction) :
    (Plan.merge (engine.fullMaking job prior changes reason extraction)).conclude job =
      engine.fullOutcome job prior changes reason extraction :=
  Plan.conclude_merge _ job

theorem fullParse_result (prior : Option Version) (changes : List LineChange) (reason : Escalation) :
    (engine.fullParse Host.plain job prior changes reason).result =
      match job.processor.process job.text .file with
      | .error error => .error (fullParseError job.file error)
      | .ok extraction => .ok (.merge (engine.fullMaking job prior changes reason extraction)) := by
  unfold fullParse
  rw [Work.result_check_bind, Work.result_attempt_bind, Work.result_bind, Work.result_lift]
  cases job.processor.process job.text .file with
  | error error => rfl
  | ok extraction => exact Work.result_check_bind _ _

/-! ### Parsing windows -/

/-- What was found in windows is what the processor finds in each of them, moved to its place. -/
inductive FoundIn (job : Job) : List LineRange → WindowFindings → Prop where
  | nil : FoundIn job [] ⟨[], []⟩
  | cons {window : LineRange} {windows : List LineRange} {found : WindowFindings}
      {extraction : Extraction}
      (processed : job.processor.process (job.index.slice window.start window.stop) .window =
        .ok extraction)
      (rest : FoundIn job windows found) :
      FoundIn job (window :: windows)
        { drafts := extraction.drafts.map (·.offset window.start) ++ found.drafts
          outline := extraction.outline.map (·.offset window.start) ++ found.outline }

namespace FoundIn

variable {job : Job} {windows : List LineRange} {found : WindowFindings}

theorem processed (foundIn : FoundIn job windows found) : ∀ window ∈ windows, ∃ extraction,
    job.processor.process (job.index.slice window.start window.stop) .window = .ok extraction := by
  induction foundIn with
  | nil => simp
  | cons processed _ inductionHypothesis =>
    rw [List.forall_mem_cons]
    exact ⟨⟨_, processed⟩, inductionHypothesis⟩

theorem drafts (foundIn : FoundIn job windows found) (draft : Draft) :
    draft ∈ found.drafts ↔ ∃ window ∈ windows, ∃ extraction,
      job.processor.process (job.index.slice window.start window.stop) .window = .ok extraction ∧
        ∃ inner ∈ extraction.drafts, inner.offset window.start = draft := by
  induction foundIn with
  | nil => simp
  | cons processed _ inductionHypothesis =>
    simp only [List.mem_append, List.mem_map, inductionHypothesis, List.mem_cons, exists_eq_or_imp,
      processed, Except.ok.injEq, exists_eq_left']

theorem outline (foundIn : FoundIn job windows found) (node : Span) :
    node ∈ found.outline ↔ ∃ window ∈ windows, ∃ extraction,
      job.processor.process (job.index.slice window.start window.stop) .window = .ok extraction ∧
        ∃ inner ∈ extraction.outline, inner.offset window.start = node := by
  induction foundIn with
  | nil => simp
  | cons processed _ inductionHypothesis =>
    simp only [List.mem_append, List.mem_map, inductionHypothesis, List.mem_cons, exists_eq_or_imp,
      processed, Except.ok.injEq, exists_eq_left']

end FoundIn

/-- One of several windows ends in an error after which the whole text is not tried; all windows before
it can be parsed. -/
def Broken (job : Job) (windows : List LineRange) (error : Error) : Prop :=
  error.isRecoverable = false ∧ ∃ before window after, windows = before ++ window :: after ∧
    (∀ earlier ∈ before, ∃ extraction,
      job.processor.process (job.index.slice earlier.start earlier.stop) .window = .ok extraction) ∧
    job.processor.process (job.index.slice window.start window.stop) .window = .error error

theorem Broken.cons {window : LineRange} {windows : List LineRange} {extraction : Extraction}
    {error : Error} (broken : Broken job windows error)
    (processed : job.processor.process (job.index.slice window.start window.stop) .window =
      .ok extraction) : Broken job (window :: windows) error := by
  obtain ⟨fatal, before, place, after, rfl, parsed, failed⟩ := broken
  exact ⟨fatal, window :: before, place, after, rfl, List.forall_mem_cons.mpr ⟨⟨_, processed⟩, parsed⟩,
    failed⟩

/-- Windows either yield what the processor finds in them, or one of them fails. A failure ends
the work unless the whole text can still be tried. -/
theorem parseWindows_cases (windows : List LineRange) :
    (∃ found, FoundIn job windows found ∧
      (parseWindows Host.plain job windows).result = .ok (.ok found)) ∨
    (∃ error, error.isRecoverable = true ∧
      (∃ window ∈ windows,
        job.processor.process (job.index.slice window.start window.stop) .window = .error error) ∧
      (parseWindows Host.plain job windows).result = .ok (.error error)) ∨
    ∃ error, Broken job windows error ∧
      (parseWindows Host.plain job windows).result = .error error := by
  induction windows with
  | nil => exact Or.inl ⟨⟨[], []⟩, .nil, rfl⟩
  | cons window rest inductionHypothesis =>
    rw [parseWindows, Work.result_check_bind, Work.result_attempt_bind]
    cases processed : job.processor.process (job.index.slice window.start window.stop) .window with
    | error error =>
      refine Or.inr ?_
      cases recoverable : error.isRecoverable with
      | true =>
        exact Or.inl ⟨error, recoverable, ⟨window, List.mem_cons_self, processed⟩,
          by simp [recoverable, Work.result_pure]⟩
      | false =>
        exact Or.inr ⟨error, ⟨recoverable, [], window, rest, rfl, nofun, processed⟩,
          by simp [recoverable, Work.result_throw]⟩
    | ok extraction =>
      simp only
      rw [Work.result_bind]
      rcases inductionHypothesis with ⟨found, foundIn, given⟩ |
        ⟨error, recoverable, ⟨other, member, failed⟩, given⟩ | ⟨error, broken, given⟩
      · rw [given]
        exact Or.inl ⟨_, .cons processed foundIn, rfl⟩
      · rw [given]
        exact Or.inr (Or.inl ⟨error, recoverable, ⟨other, List.mem_cons_of_mem _ member, failed⟩, rfl⟩)
      · rw [given]
        exact Or.inr (Or.inr ⟨error, broken.cons job processed, rfl⟩)

/-- No window can be parsed behind the one that ends the work. -/
theorem parseWindows_broken {windows : List LineRange} {error : Error}
    (broken : Broken job windows error) :
    (parseWindows Host.plain job windows).result = .error error := by
  obtain ⟨fatal, before, window, after, rfl, parsed, failed⟩ := broken
  induction before with
  | nil =>
    rw [List.nil_append, parseWindows, Work.result_check_bind, Work.result_attempt_bind, failed]
    simp [fatal, Work.result_throw]
  | cons first rest inductionHypothesis =>
    rw [List.forall_mem_cons] at parsed
    obtain ⟨⟨extraction, processed⟩, parsed⟩ := parsed
    rw [List.cons_append, parseWindows, Work.result_check_bind, Work.result_attempt_bind, processed]
    simp only
    rw [Work.result_bind, inductionHypothesis parsed]
    rfl

/-- The merge after a parse of windows. -/
def windowMerge (prior : Version) (changes : List LineChange) (resolution : Resolution)
    (found : WindowFindings) : Merge.Outcome :=
  Merge.merge (engine.policy job.file) resolution.survivors (job.freshChunks found.drafts)
    resolution.invalidated prior.lineage changes

def windowReport (prior : Version) (changes : List LineChange) (resolution : Resolution)
    (windows : List LineRange) (found : WindowFindings) : Report :=
  { mode := .incremental
    windows
    survivors := resolution.survivors.length
      - (engine.windowMerge job prior changes resolution found).displaced
    reparsed := (job.freshChunks found.drafts).length
    reusedIds := (engine.windowMerge job prior changes resolution found).reused
    allocatedIds := (engine.windowMerge job prior changes resolution found).allocated }

theorem conclude_windowMaking (prior : Version) (changes : List LineChange)
    (resolution : Resolution) (windows : List LineRange) (found : WindowFindings) :
    (Plan.merge (engine.windowMaking job prior changes resolution windows found)).conclude job =
      job.checked (job.version (engine.windowMerge job prior changes resolution found)
        (carryOutline prior.outline changes windows found.outline) false)
        (engine.windowReport job prior changes resolution windows found) :=
  Plan.conclude_merge _ job

/-! ### Answers -/

/-- The version whose ids are taken over by a parse of the whole text. -/
def inherited (job : Job) (prior : Option Snapshot) : Option Version :=
  (prior.filter fun snapshot => snapshot.version.language = job.language).map Snapshot.version

theorem inherited_of_language {job : Job} {snapshot : Snapshot}
    (sameLanguage : snapshot.version.language = job.language) :
    inherited job (some snapshot) = some snapshot.version := by
  rw [inherited, Option.filter_some, if_pos (decide_eq_true sameLanguage), Option.map_some]

theorem inherited_of_other_language {job : Job} {snapshot : Snapshot}
    (otherLanguage : snapshot.version.language ≠ job.language) :
    inherited job (some snapshot) = none := by
  rw [inherited, Option.filter_some, if_neg (by simpa using otherLanguage), Option.map_none]

/-- The ways in which a job comes to nothing before there is a version to be checked. -/
inductive Refused (engine : Engine) (job : Job) (prior : Option Snapshot) : Error → Prop where
  | comparison {snapshot : Snapshot} {error : Error} (known : prior = some snapshot)
      (failed : engine.detect snapshot.text job.text = .error error)
      (fatal : error.isRecoverable = false) : Refused engine job prior error
  | window {error : Error} {part : String}
      (failed : job.processor.process part .window = .error error)
      (fatal : error.isRecoverable = false) : Refused engine job prior error
  | parse {error : Error} (failed : job.processor.process job.text .file = .error error) :
      Refused engine job prior (fullParseError job.file error)

variable {engine job} in
theorem Broken.refused {windows : List LineRange} {error : Error} (broken : Broken job windows error)
    {prior : Option Snapshot} : Refused engine job prior error := by
  obtain ⟨fatal, _, _, _, _, _, failed⟩ := broken
  exact .window failed fatal

/-- The changes that are known when the whole text is parsed: those from the text of the snapshot, or
none. -/
def Compared (engine : Engine) (job : Job) (prior : Option Snapshot) (changes : List LineChange) :
    Prop :=
  changes = [] ∨ ∃ snapshot ∈ prior, engine.detect snapshot.text job.text = .ok changes

/-- A text is compared with the one of a snapshot to find out what is to be parsed. -/
structure Updates (job : Job) (request : Request) (snapshot : Snapshot) : Prop where
  auto : request = .auto
  sameLanguage : snapshot.version.language = job.language
  otherText : snapshot.text ≠ job.text
  clean : snapshot.version.recovered = false

/-- The changes since a snapshot make it necessary to parse windows of a text, and nothing else. -/
structure Parted (engine : Engine) (job : Job) (request : Request) (snapshot : Snapshot)
    (changes : List LineChange) (windows : List LineRange) : Prop where
  updates : Updates job request snapshot
  detected : engine.detect snapshot.text job.text = .ok changes
  scope : (Resolution.resolve job.processor.isBoundary engine.settings snapshot.version changes
    job.index).scope = .windows windows

/-- The ways in which it comes out what is to be done for a job, given the snapshot of its file. -/
inductive Planned (engine : Engine) (job : Job) (request : Request) (prior : Option Snapshot) :
    Except Error Plan → Prop where
  | unchanged {snapshot : Snapshot} (known : prior = some snapshot) (auto : request = .auto)
      (sameLanguage : snapshot.version.language = job.language)
      (sameText : snapshot.text = job.text) :
      Planned engine job request prior (.ok (.keep snapshot.version))
  | comparison {snapshot : Snapshot} {error : Error} (known : prior = some snapshot)
      (updates : Updates job request snapshot)
      (failed : engine.detect snapshot.text job.text = .error error)
      (fatal : error.isRecoverable = false) : Planned engine job request prior (.error error)
  | window {snapshot : Snapshot} {changes : List LineChange} {windows : List LineRange}
      {error : Error} (known : prior = some snapshot)
      (parted : Parted engine job request snapshot changes windows)
      (broken : Broken job windows error) : Planned engine job request prior (.error error)
  | parse {error : Error} (failed : job.processor.process job.text .file = .error error) :
      Planned engine job request prior (.error (fullParseError job.file error))
  | full {extraction : Extraction} (changes : List LineChange) (reason : Escalation)
      (processed : job.processor.process job.text .file = .ok extraction)
      (compared : Compared engine job prior changes) :
      Planned engine job request prior
        (.ok (.merge (engine.fullMaking job (inherited job prior) changes reason extraction)))
  | windows {snapshot : Snapshot} {changes : List LineChange} {resolution : Resolution}
      {windows : List LineRange} {swallowed : List Chunk} {found : WindowFindings}
      (known : prior = some snapshot)
      (parted : Parted engine job request snapshot changes windows)
      (windowed : Resolution.Windowed job.processor.isBoundary snapshot.version changes job.index
        windows swallowed resolution)
      (foundIn : FoundIn job windows found) :
      Planned engine job request prior
        (.ok (.merge (engine.windowMaking job snapshot.version changes resolution windows found)))

theorem compared_bestChanges (snapshot : Snapshot) :
    Compared engine job (some snapshot) (engine.bestChanges snapshot.text job.text) := by
  unfold bestChanges
  split
  next changes detected => exact Or.inr ⟨snapshot, rfl, detected⟩
  next => exact Or.inl rfl

variable {engine job} in
theorem planned_fullParse {request : Request} {prior : Option Snapshot} {changes : List LineChange}
    (compared : Compared engine job prior changes) (reason : Escalation) :
    Planned engine job request prior
      (engine.fullParse Host.plain job (inherited job prior) changes reason).result := by
  rw [fullParse_result]
  cases processed : job.processor.process job.text .file with
  | error error => exact .parse processed
  | ok extraction => exact .full changes reason processed compared

variable {engine job} in
theorem planned_fullParse_of_language {request : Request} {snapshot : Snapshot}
    {changes : List LineChange} (compared : Compared engine job (some snapshot) changes)
    (sameLanguage : snapshot.version.language = job.language) (reason : Escalation) :
    Planned engine job request (some snapshot)
      (engine.fullParse Host.plain job (some snapshot.version) changes reason).result := by
  rw [← inherited_of_language sameLanguage]
  exact planned_fullParse compared reason

theorem planned_reparse {request : Request} {snapshot : Snapshot} {changes : List LineChange}
    (updates : Updates job request snapshot)
    (detected : engine.detect snapshot.text job.text = .ok changes) :
    Planned engine job request (some snapshot)
      (engine.reparse Host.plain job snapshot.version changes).result := by
  have compared : Compared engine job (some snapshot) changes := Or.inr ⟨snapshot, rfl, detected⟩
  unfold reparse
  simp only
  rcases Resolution.resolve_cases job.processor.isBoundary engine.settings snapshot.version changes
    job.index with ⟨reason, whole⟩ | ⟨windows, swallowed, windowed⟩
  · rw [whole]
    exact planned_fullParse_of_language compared updates.sameLanguage reason
  · have parted : Parted engine job request snapshot changes windows :=
      ⟨updates, detected, windowed.scope⟩
    rw [windowed.scope]
    simp only
    rw [Work.result_bind]
    rcases parseWindows_cases job windows with ⟨found, foundIn, given⟩ | ⟨error, _, _, given⟩ |
      ⟨error, broken, given⟩
    · rw [given]
      exact .windows rfl parted windowed foundIn
    · rw [given]
      exact planned_fullParse_of_language compared updates.sameLanguage _
    · rw [given]
      exact .window rfl parted broken

theorem planned_update {snapshot : Snapshot} (request : Request)
    (sameLanguage : snapshot.version.language = job.language) :
    Planned engine job request (some snapshot)
      (engine.update Host.plain job request snapshot).result := by
  unfold update
  simp only
  split
  · exact planned_fullParse_of_language (engine.compared_bestChanges job snapshot) sameLanguage _
  next notFull =>
    have auto : request = .auto := by
      cases request with
      | auto => rfl
      | full => exact absurd rfl notFull
    split
    next sameText => exact .unchanged rfl auto sameLanguage sameText
    next otherText =>
      split
      · exact planned_fullParse_of_language (engine.compared_bestChanges job snapshot) sameLanguage _
      next clean =>
        have updates : Updates job request snapshot :=
          ⟨auto, sameLanguage, otherText, by simpa using clean⟩
        split
        next error failed =>
          split
          · exact planned_fullParse_of_language (Or.inl rfl) sameLanguage _
          next fatal => exact .comparison rfl updates failed (by simpa using fatal)
        next changes detected =>
          rw [Work.result_check_bind]
          exact engine.planned_reparse job updates detected

theorem planned_plan (request : Request) (prior : Option Snapshot) :
    Planned engine job request prior (engine.plan Host.plain job request prior).result := by
  unfold plan
  rw [Work.result_check_bind]
  cases prior with
  | none => exact planned_fullParse (Or.inl rfl) _
  | some snapshot =>
    simp only
    split
    next sameLanguage => exact engine.planned_update job request sameLanguage
    next otherLanguage =>
      rw [← inherited_of_other_language otherLanguage]
      exact planned_fullParse (Or.inl rfl) _

/-- What is to be done is found out first and then carried out. -/
theorem build_result (request : Request) (prior : Option Snapshot) :
    (engine.build Host.plain job request prior).result =
      (engine.plan Host.plain job request prior).result.bind (·.conclude job) := by
  unfold build
  rw [Work.result_bind]
  rfl

/-- A report names the way in which it was planned to go. -/
theorem mode_of_plan {request : Request} {prior : Option Snapshot} {making : Making}
    {outcome : Outcome}
    (planned : (engine.plan Host.plain job request prior).result = .ok (.merge making))
    (given : (engine.build Host.plain job request prior).result = .ok outcome) :
    outcome.report.mode = making.mode := by
  rw [build_result, planned, Except.bind, Plan.conclude_merge] at given
  rw [Job.checked_eq_ok given]
  rfl

/-- The ways in which the engine answers a job, given the snapshot of its file. -/
inductive Answered (engine : Engine) (job : Job) (prior : Option Snapshot) :
    Except Error Outcome → Prop where
  | unchanged {snapshot : Snapshot} (known : prior = some snapshot)
      (sameLanguage : snapshot.version.language = job.language)
      (sameText : snapshot.text = job.text) :
      Answered engine job prior (.ok (Engine.unchanged snapshot.version))
  | refused {error : Error} (refused : Refused engine job prior error) :
      Answered engine job prior (.error error)
  | full {extraction : Extraction} (changes : List LineChange) (reason : Escalation)
      (processed : job.processor.process job.text .file = .ok extraction)
      (compared : Compared engine job prior changes) :
      Answered engine job prior
        (job.checked (job.version (engine.fullMerge job (inherited job prior) changes extraction)
          extraction.outline extraction.recovered)
          (engine.fullReport job (inherited job prior) changes reason extraction))
  | windows {snapshot : Snapshot} {changes : List LineChange} {resolution : Resolution}
      {windows : List LineRange} {swallowed : List Chunk} {found : WindowFindings}
      (known : prior = some snapshot) (sameLanguage : snapshot.version.language = job.language)
      (clean : snapshot.version.recovered = false)
      (detected : engine.detect snapshot.text job.text = .ok changes)
      (windowed : Resolution.Windowed job.processor.isBoundary snapshot.version changes job.index
        windows swallowed resolution)
      (foundIn : FoundIn job windows found) :
      Answered engine job prior
        (job.checked (job.version (engine.windowMerge job snapshot.version changes resolution found)
          (carryOutline snapshot.version.outline changes windows found.outline) false)
          (engine.windowReport job snapshot.version changes resolution windows found))

theorem answered_build (request : Request) (prior : Option Snapshot) :
    Answered engine job prior (engine.build Host.plain job request prior).result := by
  rw [build_result]
  have planned := engine.planned_plan job request prior
  generalize (engine.plan Host.plain job request prior).result = result at planned
  cases planned with
  | unchanged known _ sameLanguage sameText => exact .unchanged known sameLanguage sameText
  | comparison known _ failed fatal => exact .refused (.comparison known failed fatal)
  | window _ _ broken => exact .refused broken.refused
  | parse failed => exact .refused (.parse failed)
  | full changes reason processed compared =>
    rw [Except.bind, conclude_fullMaking]
    exact .full changes reason processed compared
  | windows known parted windowed foundIn =>
    rw [Except.bind, conclude_windowMaking]
    exact .windows known parted.updates.sameLanguage parted.updates.clean parted.detected windowed
      foundIn

/-- The answer if the whole text is parsed. -/
def fullAnswer (prior : Option Version) (changes : List LineChange) (reason : Escalation) :
    Except Error Outcome :=
  match job.processor.process job.text .file with
  | .error error => .error (fullParseError job.file error)
  | .ok extraction => engine.fullOutcome job prior changes reason extraction

theorem fullParse_conclude (prior : Option Version) (changes : List LineChange)
    (reason : Escalation) :
    (engine.fullParse Host.plain job prior changes reason).result.bind (·.conclude job) =
      engine.fullAnswer job prior changes reason := by
  rw [fullParse_result, fullAnswer]
  cases job.processor.process job.text .file with
  | error error => rfl
  | ok extraction => exact engine.conclude_fullMaking job prior changes reason extraction

theorem plan_none (request : Request) :
    (engine.plan Host.plain job request none).result =
      (engine.fullParse Host.plain job none [] .noPrior).result := by
  rw [plan, Work.result_check_bind]

theorem build_none (request : Request) :
    (engine.build Host.plain job request none).result =
      engine.fullAnswer job none [] .noPrior := by
  rw [build_result, plan_none, fullParse_conclude]

variable {engine job}

theorem plan_of_other_language {snapshot : Snapshot}
    (otherLanguage : snapshot.version.language ≠ job.language) (request : Request) :
    (engine.plan Host.plain job request (some snapshot)).result =
      (engine.fullParse Host.plain job none [] .languageChanged).result := by
  rw [plan, Work.result_check_bind, if_neg otherLanguage]

theorem build_of_other_language {snapshot : Snapshot}
    (otherLanguage : snapshot.version.language ≠ job.language) (request : Request) :
    (engine.build Host.plain job request (some snapshot)).result =
      engine.fullAnswer job none [] .languageChanged := by
  rw [build_result, plan_of_other_language otherLanguage, fullParse_conclude]

/-- Whoever insists on a parse of the whole text gets it, with the changes as far as they are
known. -/
theorem build_forced {snapshot : Snapshot} (sameLanguage : snapshot.version.language = job.language) :
    (engine.build Host.plain job .full (some snapshot)).result =
      engine.fullAnswer job (some snapshot.version) (engine.bestChanges snapshot.text job.text)
        .forced := by
  rw [build_result, plan, Work.result_check_bind, if_pos sameLanguage, update, if_pos rfl]
  exact engine.fullParse_conclude job _ _ _

/-- For a text that is known there is nothing to do. -/
theorem plan_known {snapshot : Snapshot} (sameLanguage : snapshot.version.language = job.language)
    (sameText : snapshot.text = job.text) :
    (engine.plan Host.plain job .auto (some snapshot)).result = .ok (.keep snapshot.version) := by
  have notFull : Request.auto ≠ .full := by decide
  rw [plan, Work.result_check_bind, if_pos sameLanguage, update, if_neg notFull, if_pos sameText]
  rfl

/-- A comparison that fails for good ends the work. -/
theorem plan_comparison {request : Request} {snapshot : Snapshot} {error : Error}
    (updates : Updates job request snapshot)
    (failed : engine.detect snapshot.text job.text = .error error)
    (fatal : error.isRecoverable = false) :
    (engine.plan Host.plain job request (some snapshot)).result = .error error := by
  obtain ⟨rfl, sameLanguage, otherText, clean⟩ := updates
  have notFull : Request.auto ≠ .full := by decide
  rw [plan, Work.result_check_bind, if_pos sameLanguage, update, if_neg notFull, if_neg otherText,
    if_neg (by rw [clean]; exact Bool.false_ne_true), failed]
  simp [fatal, Work.result_throw]

/-- A comparison decides about what is to be parsed. -/
theorem plan_updates {request : Request} {snapshot : Snapshot} {changes : List LineChange}
    (updates : Updates job request snapshot)
    (detected : engine.detect snapshot.text job.text = .ok changes) :
    (engine.plan Host.plain job request (some snapshot)).result =
      (engine.reparse Host.plain job snapshot.version changes).result := by
  obtain ⟨rfl, sameLanguage, otherText, clean⟩ := updates
  have notFull : Request.auto ≠ .full := by decide
  rw [plan, Work.result_check_bind, if_pos sameLanguage, update, if_neg notFull, if_neg otherText,
    if_neg (by rw [clean]; exact Bool.false_ne_true), detected]
  exact Work.result_check_bind _ _

/-- If too much has changed, the whole text is parsed. -/
theorem plan_escalated {request : Request} {snapshot : Snapshot} {changes : List LineChange}
    {reason : Escalation} (updates : Updates job request snapshot)
    (detected : engine.detect snapshot.text job.text = .ok changes)
    (scope : (Resolution.resolve job.processor.isBoundary engine.settings snapshot.version changes
      job.index).scope = .full reason) :
    (engine.plan Host.plain job request (some snapshot)).result =
      (engine.fullParse Host.plain job (some snapshot.version) changes reason).result := by
  rw [plan_updates updates detected, reparse, scope]

/-- Windows that are to be parsed are parsed. -/
theorem plan_parted {request : Request} {snapshot : Snapshot} {changes : List LineChange}
    {windows : List LineRange} (parted : Parted engine job request snapshot changes windows) :
    (engine.plan Host.plain job request (some snapshot)).result =
      (parseWindows Host.plain job windows).result.bind fun
        | .error error => (engine.fullParse Host.plain job (some snapshot.version) changes
            (.windowFailed error.message)).result
        | .ok found => .ok (.merge (engine.windowMaking job snapshot.version changes
            (Resolution.resolve job.processor.isBoundary engine.settings snapshot.version changes
              job.index) windows found)) := by
  rw [plan_updates parted.updates parted.detected, reparse, parted.scope]
  simp only
  rw [Work.result_bind]
  congr 1
  funext attempted
  cases attempted with
  | error error => rfl
  | ok found => exact Work.result_check_bind _ _

/-- Whoever wants the whole text to be parsed gets that. -/
theorem plan_full (engine : Engine) (job : Job) (prior : Option Snapshot) : ∃ changes reason,
    (engine.plan Host.plain job .full prior).result =
      (engine.fullParse Host.plain job (inherited job prior) changes reason).result := by
  cases prior with
  | none => exact ⟨_, _, rfl⟩
  | some snapshot =>
    by_cases sameLanguage : snapshot.version.language = job.language
    · refine ⟨engine.bestChanges snapshot.text job.text, .forced, ?_⟩
      rw [inherited_of_language sameLanguage, plan, Work.result_check_bind, if_pos sameLanguage,
        update, if_pos rfl]
    · refine ⟨[], .languageChanged, ?_⟩
      rw [inherited_of_other_language sameLanguage, plan_of_other_language sameLanguage]

theorem build_full (engine : Engine) (job : Job) (prior : Option Snapshot) : ∃ changes reason,
    (engine.build Host.plain job .full prior).result =
      engine.fullAnswer job (inherited job prior) changes reason := by
  obtain ⟨changes, reason, planned⟩ := engine.plan_full job prior
  refine ⟨changes, reason, ?_⟩
  rw [build_result, planned, fullParse_conclude]

/-- Whatever way an outcome came about, it is the version of the job's text in its language. Only
if it is the version of the snapshot does it count as unchanged. -/
theorem Answered.version_of_ok {prior : Option Snapshot} {outcome : Outcome}
    (answered : Answered engine job prior (.ok outcome)) :
    outcome.version.language = job.language ∧
      (outcome.report.mode = .unchanged → prior = some ⟨outcome.version, job.text⟩) := by
  generalize given : Except.ok outcome = result at answered
  cases answered with
  | unchanged known sameLanguage sameText =>
    cases given
    exact ⟨sameLanguage, fun _ => known.trans (by rw [← sameText]; rfl)⟩
  | refused => cases given
  | full =>
    rw [Job.checked_eq_ok given.symm]
    exact ⟨rfl, nofun⟩
  | windows =>
    rw [Job.checked_eq_ok given.symm]
    exact ⟨rfl, nofun⟩

end Engine

end Chunking
