/-
Errors that are recovered from. A comparison that leads to nothing and a window that
cannot be divided are reasons to parse the whole text, on every way through the
engine; what is left to go wrong is that parse itself and the check of the version.
Processors may answer differently each time they are asked, so the statement is one
about surroundings: as long as nobody asks to stop and processors fail in no other
way than by finding their input malformed, nothing else comes out of the engine.
-/

import Chunking.Proofs.Publication

namespace Chunking

/-- Nothing out of the ordinary happens in quiet states: nobody asks to stop, and a processor that
fails finds its input malformed. -/
structure Host.Undisturbed {σ : Type} (host : Host σ) (processor : Processor) (quiet : σ → Prop) :
    Prop where
  calm : ∀ state, quiet state → (host.isCancelled.run state).1 = false
  afterAsking : ∀ state, quiet state → quiet (host.isCancelled.run state).2
  malformed : ∀ state text coverage error, quiet state →
    ((host.process processor text coverage).run state).1 = .error error →
    ∃ language reason, error = .malformedInput language reason
  afterProcessing : ∀ state text coverage, quiet state →
    quiet ((host.process processor text coverage).run state).2

/-- A script in which nobody asks to stop and calls fail only because of malformed input. -/
structure Script.Quiet (script : Script) : Prop where
  cancelled : script.cancelled = false
  cancelAfter : script.cancelAfter = none
  failures : ∀ failure ∈ script.failures, ∀ language, ∃ reason,
    failure.2 language = .malformedInput language reason

/-- A quiet script is followed by letting a call fail or by running the processor. -/
theorem Script.Quiet.call {script : Script} (quiet : script.Quiet) (processor : Processor)
    (text : String) (coverage : Coverage) :
    let next := { script with calls := (coverage, text.utf8ByteSize) :: script.calls }
    (∃ reason, (Script.host.process processor text coverage).run script =
        (.error (.malformedInput processor.language reason), next)) ∨
      (Script.host.process processor text coverage).run script =
        (processor.process text coverage, next) := by
  intro next
  change (∃ reason, (Script.call processor text coverage).run script = _) ∨
    (Script.call processor text coverage).run script = _
  unfold Script.call
  cases found : script.failures.lookup (script.calls.length + 1) with
  | some failure =>
    obtain ⟨_, _, failures, _⟩ := List.lookup_eq_some_iff.mp found
    obtain ⟨reason, malformed⟩ := quiet.failures (_, failure)
      (failures ▸ List.mem_append_right _ List.mem_cons_self) processor.language
    refine Or.inl ⟨reason, ?_⟩
    rw [← malformed]
    simp only [StateT.run_bind, StateT.run_get, pure_bind, List.length_cons, found]
    rfl
  | none =>
    refine Or.inr ?_
    simp only [StateT.run_bind, StateT.run_get, pure_bind, List.length_cons, found,
      quiet.cancelled, quiet.cancelAfter, next]
    rfl

theorem Script.undisturbed {processor : Processor}
    (malformed : ∀ text coverage error, processor.process text coverage = .error error →
      ∃ language reason, error = .malformedInput language reason) :
    Script.host.Undisturbed processor Script.Quiet := by
  refine ⟨fun script quiet => quiet.cancelled, fun script quiet => quiet,
    fun script text coverage error quiet failed => ?_, fun script text coverage quiet => ?_⟩
  · rcases quiet.call processor text coverage with ⟨reason, called⟩ | called
    · rw [called] at failed
      exact ⟨_, reason, (Except.error.inj failed).symm⟩
    · rw [called] at failed
      exact malformed text coverage error failed
  · rcases quiet.call processor text coverage with ⟨reason, called⟩ | called
    · rw [called]
      exact ⟨quiet.cancelled, quiet.cancelAfter, quiet.failures⟩
    · rw [called]
      exact ⟨quiet.cancelled, quiet.cancelAfter, quiet.failures⟩

/-! ### Work in quiet states -/

/-- From a quiet state work comes to a quiet state, with a good result or an error that may be. -/
structure Work.Surfaces {σ α : Type} (quiet : σ → Prop) (may : Error → Prop) (good : α → Prop)
    (work : Work σ α) : Prop where
  stays : ∀ state, quiet state → quiet (work.run.run state).2
  result : ∀ state value, quiet state → (work.run.run state).1 = .ok value → good value
  error : ∀ state error, quiet state → (work.run.run state).1 = .error error → may error

namespace Work

variable {σ α β : Type} {quiet : σ → Prop} {may : Error → Prop}

theorem surfaces_pure {value : α} {good : α → Prop} (holds : good value) :
    (pure value : Work σ α).Surfaces quiet may good := by
  refine ⟨fun _ calm => calm, ?_, ?_⟩
  · rintro state _ _ ⟨⟩
    exact holds
  · rintro state error _ ⟨⟩

theorem surfaces_lift {value : Except Error α}
    (allowed : ∀ error, value = .error error → may error) :
    (liftM value : Work σ α).Surfaces quiet may fun result => value = .ok result :=
  ⟨fun _ calm => calm, fun _ _ _ given => given, fun _ error _ given => allowed error given⟩

theorem Surfaces.bind {work : Work σ α} {next : α → Work σ β} {between : α → Prop}
    {good : β → Prop} (first : work.Surfaces quiet may between)
    (later : ∀ value, between value → (next value).Surfaces quiet may good) :
    (work >>= next).Surfaces quiet may good := by
  -- Either the work fails, and its error is that of the whole, or the rest goes on from its result.
  have step (state : σ) (calm : quiet state) :
      (∃ error, may error ∧ (work >>= next).run.run state = (.error error, (work.run.run state).2)) ∨
        ∃ value, (next value).Surfaces quiet may good ∧
          (work >>= next).run.run state = (next value).run.run (work.run.run state).2 := by
    have fails := first.error state
    have gives := first.result state
    rw [run_bind]
    cases done : work.run.run state with
    | mk result left =>
      rw [done] at fails gives
      cases result with
      | error error => exact Or.inl ⟨error, fails error calm rfl, rfl⟩
      | ok value => exact Or.inr ⟨value, later value (gives value calm rfl), rfl⟩
  refine ⟨fun state calm => ?_, fun state value calm given => ?_, fun state error calm given => ?_⟩
  · rcases step state calm with ⟨error, _, same⟩ | ⟨value, rest, same⟩
    · rw [same]
      exact first.stays state calm
    · rw [same]
      exact rest.stays _ (first.stays state calm)
  · rcases step state calm with ⟨error, _, same⟩ | ⟨middle, rest, same⟩
    · rw [same] at given
      cases given
    · rw [same] at given
      exact rest.result _ value (first.stays state calm) given
  · rcases step state calm with ⟨_, allowed, same⟩ | ⟨middle, rest, same⟩
    · rw [same] at given
      cases given
      exact allowed
    · rw [same] at given
      exact rest.error _ error (first.stays state calm) given

end Work

/-! ### The parts of the engine -/

/-- Whoever carries out a plan fails only because of a rule that the version breaks. -/
theorem Plan.conclude_violated {plan : Plan} {job : Job} {error : Error}
    (failed : plan.conclude job = .error error) :
    ∃ (version : Version) (violation : Violation), version.fault? (some job.text) = some violation ∧
      error = .invariantViolation job.file violation.message := by
  cases plan with
  | keep version => cases failed
  | merge making =>
    rw [conclude_merge, Job.checked_eq_error_iff, Version.validate] at failed
    split at failed
    · cases failed
    next violation found =>
      cases failed
      exact ⟨_, violation, found, rfl⟩

namespace Engine

variable {σ : Type} {engine : Engine} {host : Host σ} {job : Job} {quiet : σ → Prop}

/-- The errors that may come out of the engine. -/
inductive MaySurface (host : Host σ) (quiet : σ → Prop) (job : Job) : Error → Prop where
  | parse {state : σ} {cause : Error} (calm : quiet state)
      (failed : ((host.process job.processor job.text .file).run state).1 = .error cause) :
      MaySurface host quiet job (.parseFailed job.file cause.message)
  | check {version : Version} {violation : Violation}
      (broken : version.fault? (some job.text) = some violation) :
      MaySurface host quiet job (.invariantViolation job.file violation.message)

theorem check_surfaces {processor : Processor} (undisturbed : host.Undisturbed processor quiet)
    {may : Error → Prop} (file : String) : (host.check file).Surfaces quiet may fun _ => True := by
  have passes (state : σ) (calm : quiet state) :
      (host.check file).run.run state = (.ok (), (host.isCancelled.run state).2) := by
    rw [Host.check_run, undisturbed.calm state calm]
    rfl
  refine ⟨fun state calm => ?_, fun _ _ _ _ => trivial, fun state error calm given => ?_⟩
  · rw [passes state calm]
    exact undisturbed.afterAsking state calm
  · rw [passes state calm] at given
    cases given

/-- An answer of a processor, whether it is a failure or not, is not an error of the work. -/
theorem attempt_surfaces (undisturbed : host.Undisturbed job.processor quiet) {may : Error → Prop}
    (text : String) (coverage : Coverage) :
    (host.attempt job.processor text coverage).Surfaces quiet may fun attempted =>
      ∃ state, quiet state ∧ ((host.process job.processor text coverage).run state).1 = attempted := by
  refine ⟨fun state calm => undisturbed.afterProcessing state text coverage calm, ?_, ?_⟩
  · rintro state _ calm ⟨⟩
    exact ⟨state, calm, rfl⟩
  · rintro state error _ ⟨⟩

theorem fullParse_surfaces (undisturbed : host.Undisturbed job.processor quiet)
    (base : Option Version) (changes : List LineChange) (reason : Escalation) :
    (engine.fullParse host job base changes reason).Surfaces quiet (MaySurface host quiet job)
      fun _ => True := by
  unfold fullParse
  refine (check_surfaces undisturbed _).bind fun _ _ =>
    (attempt_surfaces undisturbed _ _).bind fun attempted answered =>
      (Work.surfaces_lift fun error failed => ?_).bind fun extraction _ =>
        (check_surfaces undisturbed _).bind fun _ _ => Work.surfaces_pure trivial
  obtain ⟨state, calm, rfl⟩ := answered
  cases given : ((host.process job.processor job.text .file).run state).1 with
  | ok extraction =>
    rw [given] at failed
    cases failed
  | error cause =>
    obtain ⟨language, reason, rfl⟩ := undisturbed.malformed state _ _ cause calm given
    rw [given] at failed
    cases failed
    exact .parse calm given

/-- Windows never end the work: each failure is one after which the whole text can be tried. -/
theorem parseWindows_surfaces (undisturbed : host.Undisturbed job.processor quiet)
    {may : Error → Prop} (windows : List LineRange) :
    (parseWindows host job windows).Surfaces quiet may fun _ => True := by
  induction windows with
  | nil => exact Work.surfaces_pure trivial
  | cons window rest inductionHypothesis =>
    rw [parseWindows]
    refine (check_surfaces undisturbed _).bind fun _ _ =>
      (attempt_surfaces undisturbed _ _).bind fun attempted answered => ?_
    cases attempted with
    | error error =>
      obtain ⟨state, calm, given⟩ := answered
      obtain ⟨language, reason, rfl⟩ := undisturbed.malformed state _ _ error calm given
      exact Work.surfaces_pure trivial
    | ok extraction =>
      refine inductionHypothesis.bind fun found _ => ?_
      cases found with
      | error error => exact Work.surfaces_pure trivial
      | ok found => exact Work.surfaces_pure trivial

theorem reparse_surfaces (undisturbed : host.Undisturbed job.processor quiet) (prior : Version)
    (changes : List LineChange) :
    (engine.reparse host job prior changes).Surfaces quiet (MaySurface host quiet job)
      fun _ => True := by
  unfold reparse
  simp only
  split
  · exact fullParse_surfaces undisturbed _ _ _
  · refine (parseWindows_surfaces undisturbed _).bind fun found _ => ?_
    cases found with
    | error error => exact fullParse_surfaces undisturbed _ _ _
    | ok found => exact (check_surfaces undisturbed _).bind fun _ _ => Work.surfaces_pure trivial

theorem update_surfaces (undisturbed : host.Undisturbed job.processor quiet)
    (inconclusive : ∀ old new error, engine.detect old new = .error error →
      ∃ reason, error = .diffInconclusive reason) (request : Request) (prior : Snapshot) :
    (engine.update host job request prior).Surfaces quiet (MaySurface host quiet job)
      fun _ => True := by
  unfold update
  simp only
  split
  · exact fullParse_surfaces undisturbed _ _ _
  · split
    · exact Work.surfaces_pure trivial
    · split
      · exact fullParse_surfaces undisturbed _ _ _
      · split
        next error failed =>
          obtain ⟨reason, rfl⟩ := inconclusive _ _ error failed
          exact fullParse_surfaces undisturbed _ _ _
        next => exact (check_surfaces undisturbed _).bind fun _ _ => reparse_surfaces undisturbed _ _

theorem plan_surfaces (undisturbed : host.Undisturbed job.processor quiet)
    (inconclusive : ∀ old new error, engine.detect old new = .error error →
      ∃ reason, error = .diffInconclusive reason) (request : Request) (prior : Option Snapshot) :
    (engine.plan host job request prior).Surfaces quiet (MaySurface host quiet job)
      fun _ => True := by
  unfold plan
  refine (check_surfaces undisturbed _).bind fun _ _ => ?_
  cases prior with
  | none => exact fullParse_surfaces undisturbed _ _ _
  | some snapshot =>
    simp only
    split
    · exact update_surfaces undisturbed inconclusive request snapshot
    · exact fullParse_surfaces undisturbed _ _ _

theorem build_surfaces (undisturbed : host.Undisturbed job.processor quiet)
    (inconclusive : ∀ old new error, engine.detect old new = .error error →
      ∃ reason, error = .diffInconclusive reason) (request : Request) (prior : Option Snapshot) :
    (engine.build host job request prior).Surfaces quiet (MaySurface host quiet job)
      fun _ => True := by
  refine (plan_surfaces undisturbed inconclusive request prior).bind fun plan _ => ?_
  have carriedOut : (liftM (plan.conclude job) : Work σ Outcome).Surfaces quiet
      (MaySurface host quiet job) fun outcome => plan.conclude job = .ok outcome := by
    refine Work.surfaces_lift fun error failed => ?_
    obtain ⟨version, violation, broken, rfl⟩ := plan.conclude_violated failed
    exact .check broken
  exact ⟨carriedOut.stays, fun _ _ _ _ => trivial, carriedOut.error⟩

/-- Comparisons of texts fail in one way only. -/
theorem detect_inconclusive (deadline : Diff.Deadline) (old new : String) (error : Error)
    (failed : Diff.detect deadline old new = .error error) :
    ∃ reason, error = .diffInconclusive reason := by
  unfold Diff.detect at failed
  split at failed
  · cases failed
  · split at failed
    · cases failed
      exact ⟨_, rfl⟩
    · split at failed
      · cases failed
        exact ⟨_, rfl⟩
      · cases failed

/-! ### Calls -/

theorem transact_surfaces {state : σ} (calm : quiet state) {processor : Processor}
    (undisturbed : host.Undisturbed processor quiet)
    (inconclusive : ∀ old new error, engine.detect old new = .error error →
      ∃ reason, error = .diffInconclusive reason) (store : Store) (file text : String)
    {language : Language} (registered : engine.registry language = some processor)
    (request : Request) {error : Error}
    (failed : ((engine.transact host store file text language request).run state).1.1 =
      .error error) : MaySurface host quiet ⟨file, text, language, processor⟩ error := by
  have built : (engine.build host ⟨file, text, language, processor⟩ request
      (store.peek? file)).Surfaces quiet (MaySurface host quiet ⟨file, text, language, processor⟩)
        fun _ => True := build_surfaces undisturbed inconclusive request _
  have registry : engine.registry.get language = .ok processor := by
    rw [Registry.get, registered]
  rw [transact_run, registry] at failed
  simp only at failed
  split at failed
  next cause left given =>
    cases failed
    exact built.error state error calm (congrArg Prod.fst given)
  next outcome left given =>
    have still : quiet left := by
      have after := built.stays state calm
      rwa [given] at after
    split at failed
    · cases failed
    · split at failed
      next stopped =>
        -- Nobody asks to stop before publication either.
        have passes : (host.check file).Surfaces quiet (fun _ => False) fun _ => True :=
          check_surfaces undisturbed file
        exact (passes.error left _ still (congrArg Prod.fst stopped)).elim
      · cases failed

/-- What is known of the errors of a call for a text. -/
structure Recovers (host : Host σ) (quiet : σ → Prop) (processor : Processor) (file text : String)
    (result : Except Error Outcome) : Prop where
  kinds : ∀ error, result = .error error →
    (∃ reason, error = .parseFailed file reason) ∨ ∃ detail, error = .invariantViolation file detail
  /-- A parse fails for the reason that the processor gives for the whole text. -/
  parse : ∀ name reason, result = .error (.parseFailed name reason) → ∃ before cause, quiet before ∧
    ((host.process processor text .file).run before).1 = .error cause ∧ reason = cause.message
  /-- Nothing that fails under way makes a parse fail if the whole text can be divided. -/
  divisible : (∀ before, quiet before → ∃ extraction,
      ((host.process processor text .file).run before).1 = .ok extraction) →
    ∀ name reason, result ≠ .error (.parseFailed name reason)
  check : ∀ name detail, result = .error (.invariantViolation name detail) →
    ∃ (version : Version) (violation : Violation), version.fault? (some text) = some violation ∧
      detail = violation.message

/-- Comparisons and windows that fail are recovered from, whatever is known of the file. -/
theorem transact_recovers (engine : Engine) (host : Host σ) {quiet : σ → Prop} {state : σ}
    (calm : quiet state) {processor : Processor} (undisturbed : host.Undisturbed processor quiet)
    (inconclusive : ∀ old new error, engine.detect old new = .error error →
      ∃ reason, error = .diffInconclusive reason) (store : Store) (file text : String)
    {language : Language} (registered : engine.registry language = some processor)
    (request : Request) :
    Recovers host quiet processor file text
      ((engine.transact host store file text language request).run state).1.1 := by
  have surfaces {error : Error} := @transact_surfaces σ engine host quiet state calm processor
    undisturbed inconclusive store file text language registered request error
  have parse : ∀ name reason,
      ((engine.transact host store file text language request).run state).1.1 =
        .error (.parseFailed name reason) → ∃ before cause, quiet before ∧
      ((host.process processor text .file).run before).1 = .error cause ∧ reason = cause.message := by
    intro name reason failed
    cases surfaces failed with
    | parse before cause => exact ⟨_, _, before, cause, rfl⟩
  refine ⟨fun error failed => ?_, parse, fun divisible name reason failed => ?_, ?_⟩
  · cases surfaces failed with
    | parse _ _ => exact Or.inl ⟨_, rfl⟩
    | check _ => exact Or.inr ⟨_, rfl⟩
  · obtain ⟨before, cause, still, given, _⟩ := parse name reason failed
    obtain ⟨extraction, parsed⟩ := divisible before still
    rw [parsed] at given
    cases given
  · intro name detail failed
    cases surfaces failed with
    | check broken => exact ⟨_, _, broken, rfl⟩

/-- A text is known in which there is nothing, and the change to a line is told without a comparison.
When the window of this line cannot be divided, the whole text is; when that cannot be divided
either, its failure is the reason. A text that is not compared is parsed as a whole at once. -/
theorem transact_recovers_scripted :
    let engine := { linewise (fun _ => .function) fun _ => "line" with
      detect := fun old new =>
        if new = "a\n" then .ok [⟨⟨0, 0⟩, ⟨0, 1⟩⟩] else Diff.detect .ample old new }
    let known := ((engine.transact Script.host (.empty none) "notes" "" .python .auto).run {}).1.2
    let cut : Language → Error := fun language => .malformedInput language "cut short"
    let result (text : String) (failing : List Nat) :=
      ((engine.transact Script.host known "notes" text .python .auto).run
        { failures := failing.map (·, cut) }).1.1
    let escalation (text : String) (failing : List Nat) :=
      (result text failing).map fun outcome => outcome.report.escalation
    escalation "a\n" [1] = .ok (some (.windowFailed "Malformed python input: cut short")) ∧
      escalation "a\n" [1, 2] = .error (.parseFailed "notes" "Malformed python input: cut short") ∧
      escalation "\x00" [] =
        .ok (some (.diffInconclusive "Diff inconclusive: text contains NUL bytes")) ∧
      ∀ text failing, Recovers Script.host Script.Quiet (.linewise .python .function "line") "notes"
        text (result text failing) := by
  intro engine known cut result escalation
  refine ⟨by decide +kernel, by decide +kernel, by decide +kernel, fun text failing => ?_⟩
  have undisturbed : Script.host.Undisturbed (.linewise .python .function "line") Script.Quiet :=
    Script.undisturbed fun text coverage error failed => by cases failed
  have inconclusive : ∀ old new error, engine.detect old new = .error error →
      ∃ reason, error = .diffInconclusive reason := by
    intro old new error failed
    change (if new = "a\n" then _ else _) = _ at failed
    split at failed
    · cases failed
    · exact detect_inconclusive .ample old new error failed
  have quiet : Script.Quiet { failures := failing.map (·, cut) } := by
    refine ⟨rfl, rfl, fun failure member language => ?_⟩
    obtain ⟨call, _, rfl⟩ := List.mem_map.mp member
    exact ⟨_, rfl⟩
  exact engine.transact_recovers Script.host quiet undisturbed inconclusive known "notes" text rfl
    .auto

end Engine

end Chunking
