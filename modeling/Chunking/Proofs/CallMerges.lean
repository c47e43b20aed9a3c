/-
The merge that a call comes to. Whatever way the engine takes, it merges at most once:
after a parse of the whole text, or after a parse of windows. What is put into the
merge can be told from the job and the snapshot of the file; if there is nothing to be
merged, the call fails or leaves the version as it is, and otherwise its result is what
becomes of the merge once it has been checked.
-/

import Chunking.Proofs.IdHistory
import Chunking.Proofs.Sums

namespace Chunking

namespace Engine

variable (engine : Engine) (job : Job)

/-! ### What becomes of it -/

/-- What is merged comes from the version whose ids are taken over and from the processor. -/
structure Supplied (job : Job) (prior : Option Snapshot) (input : Merge.Input) : Prop where
  file : input.policy.file = job.file
  lineage : input.lineage = (inherited job prior).elim {} Version.lineage
  bearers : (((inherited job prior).elim [] Version.chunks).map Chunk.bearer).Perm
    ((input.survivors ++ input.invalidated.map Invalidated.chunk).map Chunk.bearer)
  named : ∀ named, job.processor.Names named →
    ∀ construct ∈ input.fresh, named construct.draft.kind construct.draft.name

/-- How the result of a job follows from what is merged. -/
inductive Concludes (engine : Engine) (job : Job) (prior : Option Snapshot) :
    Option Merge.Input → Except Error Outcome → Prop where
  | refused {error : Error} (refused : Refused engine job prior error) :
      Concludes engine job prior none (.error error)
  | unchanged {snapshot : Snapshot} (known : prior = some snapshot) :
      Concludes engine job prior none (.ok (Engine.unchanged snapshot.version))
  | merged {input : Merge.Input} {outline : List Span} {recovered : Bool} {report : Report}
      (supplied : Supplied job prior input)
      (allocated : report.allocatedIds = input.outcome.allocated) :
      Concludes engine job prior (some input)
        (job.checked (job.version input.outcome outline recovered) report)

variable {engine job}

theorem supplied_full {extraction : Extraction}
    (processed : job.processor.process job.text .file = .ok extraction) (prior : Option Snapshot)
    (changes : List LineChange) :
    Supplied job prior (engine.fullInput job (inherited job prior) changes extraction) := by
  refine ⟨rfl, rfl, ?_, fun named proper => freshChunks_named (proper processed)⟩
  cases inherited job prior with
  | none => exact .nil
  | some version =>
    simp only [fullInput, Option.elim_some, List.nil_append]
    rw [Resolution.bearers_ofPrior]

theorem supplied_windows {snapshot : Snapshot} {changes : List LineChange} {resolution : Resolution}
    {windows : List LineRange} {swallowed : List Chunk} {found : WindowFindings}
    (sameLanguage : snapshot.version.language = job.language)
    (windowed : Resolution.Windowed job.processor.isBoundary snapshot.version changes job.index
      windows swallowed resolution)
    (foundIn : FoundIn job windows found) :
    Supplied job (some snapshot)
      (engine.windowInput job snapshot.version changes resolution found) := by
  refine ⟨rfl, ?_, ?_, fun named proper => freshChunks_named (foundIn.names proper)⟩
  · rw [inherited_of_language sameLanguage]
    rfl
  · rw [inherited_of_language sameLanguage]
    exact windowed.bearers_perm

/-- The result of a job is what becomes of its merge, and without a merge nothing changes. -/
theorem concludes_build (request : Request) (prior : Option Snapshot) :
    Concludes engine job prior (engine.input? job request prior)
      (engine.build Host.plain job request prior).result := by
  rw [build_result, input?]
  have planned := engine.planned_plan job request prior
  generalize (engine.plan Host.plain job request prior).result = result at planned ⊢
  cases planned with
  | unchanged known => exact .unchanged known
  | comparison known _ failed fatal => exact .refused (.comparison known failed fatal)
  | window _ _ broken => exact .refused broken.refused
  | parse failed => exact .refused (.parse failed)
  | full changes reason processed =>
    rw [Except.bind, Plan.conclude_merge]
    exact .merged (supplied_full processed prior changes) rfl
  | windows known parted windowed foundIn =>
    rw [Except.bind, Plan.conclude_merge, known]
    exact .merged (supplied_windows parted.updates.sameLanguage windowed foundIn) rfl

/-! ### Calls -/

/-- Everything that is merged in a run, one call after another. -/
def merges (engine : Engine) (file : String) (store : Store) (calls : List Call) :
    List Merge.Input :=
  (engine.moments file store calls).flatMap fun moment =>
    (engine.callInput? file moment.1 moment.2).toList

theorem merges_cons (engine : Engine) (file : String) (store : Store) (call : Call)
    (rest : List Call) : engine.merges file store (call :: rest) =
      (engine.callInput? file (store.peek? file) call).toList ++ engine.merges file
        (engine.perform call.request store ⟨file, call.text, call.language⟩).2 rest := rfl

/-- If nothing that is merged in a run is too great, the program does not stop over any call. -/
theorem fits_of_merges {engine : Engine} {file : String} {store : Store} {calls : List Call}
    (fits : ∀ input ∈ engine.merges file store calls, input.overflows = false)
    {moment : Option Snapshot × Call} (member : moment ∈ engine.moments file store calls) :
    engine.Fits file moment.1 moment.2 :=
  fun input merged => fits input
    (List.mem_flatMap.mpr ⟨moment, member, Option.mem_toList.mpr merged⟩)

/-- How many ids are given out in a run, whether their versions pass the check or not. -/
def given (engine : Engine) (file : String) (store : Store) (calls : List Call) : Nat :=
  ((engine.merges file store calls).map fun input => input.outcome.allocated.length).sum

/-- A call for which there is no processor comes to nothing, and every other one is answered by what
becomes of its merge. -/
theorem callInput?_cases (engine : Engine) (file : String) (prior : Option Snapshot) (call : Call) :
    (engine.callInput? file prior call = none ∧
      engine.answer file prior call = .error (.unsupportedLanguage call.language.name)) ∨
    ∃ processor, engine.registry call.language = some processor ∧
      Concludes engine ⟨file, call.text, call.language, processor⟩ prior
        (engine.callInput? file prior call) (engine.answer file prior call) := by
  unfold callInput? answer
  cases registered : engine.registry call.language with
  | none => exact Or.inl ⟨rfl, rfl⟩
  | some processor => exact Or.inr ⟨processor, rfl, concludes_build call.request prior⟩

/-- If something is merged to answer a call and there is a result, it is what becomes of the
merge. -/
theorem version_of_callInput? {file : String} {prior : Option Snapshot} {call : Call}
    {input : Merge.Input} {outcome : Outcome}
    (merged : engine.callInput? file prior call = some input)
    (answered : engine.answer file prior call = .ok outcome) :
    outcome.version.chunks = input.outcome.chunks ∧
      outcome.version.lineage = input.outcome.lineage ∧
      outcome.report.allocatedIds = input.outcome.allocated := by
  rcases engine.callInput?_cases file prior call with ⟨nothing, _⟩ | ⟨processor, _, concludes⟩
  · cases merged.symm.trans nothing
  · rw [merged] at concludes
    generalize engine.answer file prior call = result at answered concludes
    cases concludes with
    | merged supplied allocated =>
      rw [Job.checked_eq_ok answered]
      exact ⟨rfl, rfl, allocated⟩

/-- Whoever wants the whole text to be parsed gets what is found there merged. -/
theorem callInput?_full {extraction : Extraction}
    (registered : engine.registry job.language = some job.processor)
    (processed : job.processor.process job.text .file = .ok extraction) (prior : Option Snapshot) :
    ∃ changes, engine.callInput? job.file prior ⟨.full, job.text, job.language⟩ =
      some (engine.fullInput job (inherited job prior) changes extraction) := by
  rw [callInput?, registered]
  change ∃ changes, engine.input? job .full prior = _
  obtain ⟨changes, reason, planned⟩ := engine.plan_full job prior
  refine ⟨changes, ?_⟩
  rw [input?, planned, fullParse_result, processed]
  rfl

end Engine

end Chunking
