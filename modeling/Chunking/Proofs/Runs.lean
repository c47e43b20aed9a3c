/-
Runs of calls on one file. What a call does depends on the store only through the
snapshot of the file, so a run is a chain of snapshots, one left behind by each
call. An invariant of this chain holds whenever a call is answered, and what is
left of the run at that moment is again a run; this is all the induction that
statements about runs need.
-/

import Chunking.Proofs.Answers
import Chunking.Proofs.Processors
import Chunking.Proofs.Slots

namespace Chunking

/-! ### Calls -/

/-- A text that a file is to be brought up to date with. -/
structure Call where
  request : Request
  text : String
  language : Language

namespace Engine

variable (engine : Engine) (file : String)

/-- The answer to a call, given the snapshot of the file. -/
def answer (prior : Option Snapshot) (call : Call) : Except Error Outcome :=
  match engine.registry call.language with
  | none => .error (.unsupportedLanguage call.language.name)
  | some processor =>
    (engine.build Host.plain ⟨file, call.text, call.language, processor⟩ call.request prior).result

/-- What is merged to find the version of a text, given the snapshot that the file has now. -/
def input? (job : Job) (request : Request) (prior : Option Snapshot) : Option Merge.Input :=
  (engine.plan Host.plain job request prior).result.toOption.bind Plan.input?

/-- What is merged to answer a call. -/
def callInput? (prior : Option Snapshot) (call : Call) : Option Merge.Input :=
  (engine.registry call.language).bind fun processor =>
    engine.input? ⟨file, call.text, call.language, processor⟩ call.request prior

/-- The program does not stop over a call. -/
def Fits (prior : Option Snapshot) (call : Call) : Prop :=
  ∀ input ∈ engine.callInput? file prior call, input.overflows = false

theorem overflows_eq_false_iff (store : Store) (call : Call) :
    engine.overflows call.request store ⟨file, call.text, call.language⟩ = false ↔
      engine.Fits file (store.peek? file) call := by
  unfold overflows stops Fits callInput? input? Registry.get
  cases engine.registry call.language with
  | none => exact iff_of_true rfl nofun
  | some processor =>
    simp only [Option.bind_some, Work.result]
    cases ran : (engine.plan Host.plain ⟨file, call.text, call.language, processor⟩ call.request
      (store.peek? file)).run.run () with
    | mk result state =>
      simp only [StateT.run_bind, ran]
      cases result with
      | error error => exact iff_of_true rfl nofun
      | ok plan =>
        cases plan with
        | keep version => exact iff_of_true rfl nofun
        | merge making => exact ⟨fun fits _ same => Option.some.inj same ▸ fits, fun fits => fits _ rfl⟩

/-- The snapshot that is there once a call has been answered. -/
def remaining (prior : Option Snapshot) (call : Call) : Except Error Outcome → Option Snapshot
  | .error _ => prior
  | .ok outcome =>
    if outcome.report.mode = .unchanged then prior else some ⟨outcome.version, call.text⟩

/-- Calls on one file, one after another, with their answers. -/
def serve : Store → List Call → List (Call × Except Error Outcome)
  | _, [] => []
  | store, call :: rest =>
    let (result, store) := engine.perform call.request store ⟨file, call.text, call.language⟩
    (call, result) :: serve store rest

/-- The calls of a run, each with the snapshot that it finds. -/
def moments : Store → List Call → List (Option Snapshot × Call)
  | _, [] => []
  | store, call :: rest =>
    (store.peek? file, call)
      :: moments (engine.perform call.request store ⟨file, call.text, call.language⟩).2 rest

/-- A call is answered in one of the ways of the engine, if there is a processor for it. -/
theorem answer_cases (prior : Option Snapshot) (call : Call) :
    (engine.registry call.language = none ∧
      engine.answer file prior call = .error (.unsupportedLanguage call.language.name)) ∨
    ∃ processor, engine.registry call.language = some processor ∧
      Answered engine ⟨file, call.text, call.language, processor⟩ prior
        (engine.answer file prior call) := by
  unfold answer
  cases registered : engine.registry call.language with
  | none => exact Or.inl ⟨rfl, rfl⟩
  | some processor => exact Or.inr ⟨processor, rfl, engine.answered_build _ call.request prior⟩

variable {engine file} in
/-- A result is what the file is known by afterwards. -/
theorem remaining_of_ok {prior : Option Snapshot} {call : Call} {outcome : Outcome}
    (given : engine.answer file prior call = .ok outcome) :
    remaining prior call (engine.answer file prior call) = some ⟨outcome.version, call.text⟩ := by
  rcases engine.answer_cases file prior call with ⟨_, failed⟩ | ⟨processor, _, answered⟩
  · rw [failed] at given
    cases given
  · rw [given] at answered ⊢
    rw [remaining]
    split
    next same => exact answered.version_of_ok.2 same
    next => rfl

/-- The snapshot, if there is one, is that of the text of a call. -/
def FromCalls (calls : List Call) (prior : Option Snapshot) : Prop :=
  ∀ snapshot ∈ prior, ∃ call ∈ calls, call.text = snapshot.text

variable {engine file} in
theorem FromCalls.remaining {calls : List Call} {prior : Option Snapshot} {call : Call}
    (listed : FromCalls calls prior) (member : call ∈ calls) :
    FromCalls calls (remaining prior call (engine.answer file prior call)) := by
  cases given : engine.answer file prior call with
  | error error => exact listed
  | ok outcome =>
    rw [← given, remaining_of_ok given]
    rintro snapshot ⟨⟩
    exact ⟨call, member, rfl⟩

theorem FromCalls.small {calls : List Call} {prior : Option Snapshot} (listed : FromCalls calls prior)
    (small : ∀ call ∈ calls, (LineIndex.ofText call.text).size < Word.signedLimit) :
    ∀ snapshot ∈ prior, (LineIndex.ofText snapshot.text).size < Word.signedLimit := by
  intro snapshot known
  obtain ⟨earlier, among, same⟩ := listed snapshot known
  rw [← same]
  exact small earlier among

variable {engine} in
theorem FromCalls.scripts {calls : List Call} {prior : Option Snapshot} {call : Call}
    (listed : FromCalls calls prior) (member : call ∈ calls)
    (scripts : ∀ call ∈ calls, ∀ later ∈ calls, ∀ changes,
      engine.detect call.text later.text = .ok changes → IsEditScript changes call.text later.text) :
    ∀ snapshot ∈ prior, ∀ changes, engine.detect snapshot.text call.text = .ok changes →
      IsEditScript changes snapshot.text call.text := by
  intro snapshot known changes detected
  obtain ⟨earlier, among, same⟩ := listed snapshot known
  rw [← same] at detected ⊢
  exact scripts earlier among call member changes detected

/-- A call is answered from the snapshot of the file and leaves the next one behind. -/
theorem perform_eq (store : Store) (call : Call) :
    (engine.perform call.request store ⟨file, call.text, call.language⟩).1 =
        engine.answer file (store.peek? file) call ∧
      (engine.perform call.request store ⟨file, call.text, call.language⟩).2.peek? file =
        remaining (store.peek? file) call (engine.answer file (store.peek? file) call) := by
  unfold perform answer
  rw [transact_run, Registry.get]
  cases engine.registry call.language with
  | none => exact ⟨rfl, rfl⟩
  | some processor =>
    simp only [Work.result]
    cases (engine.build Host.plain ⟨file, call.text, call.language, processor⟩ call.request
      (store.peek? file)).run.run () with
    | mk result state =>
      cases result with
      | error error => exact ⟨rfl, Store.peek?_abandoned store file⟩
      | ok outcome =>
        simp only [remaining]
        split
        · exact ⟨rfl, Store.peek?_abandoned store file⟩
        · exact ⟨rfl, Store.peek?_publish _ _ _⟩

/-- The first call of a run is answered from the snapshot of the file, and the others go on from the
snapshot that it leaves behind. -/
theorem serve_cons (store : Store) (call : Call) (rest : List Call) : ∃ next,
    engine.serve file store (call :: rest) =
        (call, engine.answer file (store.peek? file) call) :: engine.serve file next rest ∧
      next.peek? file =
        remaining (store.peek? file) call (engine.answer file (store.peek? file) call) := by
  obtain ⟨answered, left⟩ := engine.perform_eq file store call
  refine ⟨_, ?_, left⟩
  rw [← answered]
  rfl

/-- Whenever a call is answered, the invariant holds of the snapshot that it finds, and later
answers are those of a run that goes on from the snapshot left behind. -/
theorem serve_moment (Inv : Option Snapshot → Prop) {calls : List Call} {store : Store}
    (kept : ∀ call ∈ calls, ∀ prior, Inv prior →
      Inv (remaining prior call (engine.answer file prior call)))
    (start : Inv (store.peek? file)) {call : Call} {result : Except Error Outcome}
    {later : List (Call × Except Error Outcome)}
    (among : ((call, result) :: later).Sublist (engine.serve file store calls)) :
    ∃ prior rest next, Inv prior ∧ call ∈ calls ∧ result = engine.answer file prior call ∧
      next.peek? file = remaining prior call result ∧ (∀ other ∈ rest, other ∈ calls) ∧
      later.Sublist (engine.serve file next rest) := by
  induction calls generalizing store with
  | nil => cases among
  | cons first rest inductionHypothesis =>
    obtain ⟨next, served, left⟩ := engine.serve_cons file store first rest
    rw [served] at among
    cases among with
    | cons _ inRest =>
      obtain ⟨prior, suffix, later, holds, member, given, found, fewer, sublist⟩ := inductionHypothesis
        (fun other member => kept other (List.mem_cons_of_mem _ member))
        (left ▸ kept first List.mem_cons_self _ start) inRest
      exact ⟨prior, suffix, later, holds, List.mem_cons_of_mem _ member, given, found,
        fun other among => List.mem_cons_of_mem _ (fewer other among), sublist⟩
    | cons_cons _ inRest =>
      exact ⟨store.peek? file, rest, next, start, List.mem_cons_self, rfl, left,
        fun other among => List.mem_cons_of_mem _ among, inRest⟩

/-- The answers of a run are those to its calls, each from the snapshot that it finds. -/
theorem serve_eq_map_moments (store : Store) (calls : List Call) :
    engine.serve file store calls = (engine.moments file store calls).map fun moment =>
      (moment.2, engine.answer file moment.1 moment.2) := by
  induction calls generalizing store with
  | nil => rfl
  | cons call rest inductionHypothesis =>
    rw [moments, List.map_cons, ← inductionHypothesis, ← (engine.perform_eq file store call).1]
    rfl

variable {file} in
/-- The second of two calls finds the result of the first one. -/
theorem moments_pair {store : Store} (new : store.peek? file = none) {first second : Call}
    {outcome : Outcome} (given : engine.answer file none first = .ok outcome) :
    engine.moments file store [first, second] =
      [(none, first), (some ⟨outcome.version, first.text⟩, second)] := by
  rw [moments, moments, moments, (engine.perform_eq file store first).2, new, remaining_of_ok given]

/-- An invariant that calls pass on to each other holds of every snapshot that a call finds. -/
theorem moments_invariant (Inv : Option Snapshot → Prop) {calls : List Call} {store : Store}
    (kept : ∀ moment ∈ engine.moments file store calls, moment.2 ∈ calls → Inv moment.1 →
      Inv (remaining moment.1 moment.2 (engine.answer file moment.1 moment.2)))
    (start : Inv (store.peek? file)) :
    ∀ moment ∈ engine.moments file store calls, moment.2 ∈ calls ∧ Inv moment.1 := by
  induction calls generalizing store with
  | nil => simp [moments]
  | cons call rest inductionHypothesis =>
    rw [moments, List.forall_mem_cons] at kept ⊢
    have left := kept.1 List.mem_cons_self start
    rw [← (engine.perform_eq file store call).2] at left
    refine ⟨⟨List.mem_cons_self, start⟩, fun moment member => ?_⟩
    obtain ⟨among, holds⟩ := inductionHypothesis
      (fun other later among => kept.2 other later (List.mem_cons_of_mem _ among)) left moment member
    exact ⟨List.mem_cons_of_mem _ among, holds⟩

/-- An engine for which every line is a construct, of one kind and name in each language. -/
def linewise (kind : Language → Kind) (name : Language → String) : Engine :=
  { settings := default
    registry := fun language => some (.linewise language (kind language) (name language)) }

end Engine

/-- If all comparisons come out right, there is nothing else that they come out as. -/
theorem scripts_of_compared {detect : String → String → Except Error (List LineChange)}
    {calls : List Call}
    (compared : ∀ call ∈ calls, ∀ later ∈ calls, ∃ changes,
      detect call.text later.text = .ok changes ∧ IsEditScript changes call.text later.text) :
    ∀ call ∈ calls, ∀ later ∈ calls, ∀ changes,
      detect call.text later.text = .ok changes → IsEditScript changes call.text later.text := by
  intro call member later laterMember changes detected
  obtain ⟨_, found, script⟩ := compared call member later laterMember
  cases found.symm.trans detected
  exact script

/-- Nothing is found between a text and itself. -/
theorem detect_self (text : String) : ∃ changes, Diff.detect .ample text text = .ok changes ∧
    IsEditScript changes text text :=
  ⟨[], if_pos rfl, .done 0 0 _⟩

/-! ### A line that is added -/

/-- Two lines, and then a third one behind them. -/
def addedLine : List Call :=
  [⟨.auto, "a\nb\n", .python⟩, ⟨.auto, "a\nb\nc\n", .python⟩]

theorem addedLine_small :
    ∀ call ∈ addedLine, (LineIndex.ofText call.text).size < Word.signedLimit := by
  simp only [addedLine, List.mem_cons, List.not_mem_nil, or_false, forall_eq_or_imp, forall_eq]
  decide

theorem detect_addedLine : Diff.detect .ample "a\nb\n" "a\nb\nc\n" = .ok [⟨⟨2, 2⟩, ⟨2, 3⟩⟩] :=
  rfl

/-- The line is found between the two texts, in both directions. -/
theorem detect_of_addedLine : ∀ call ∈ addedLine, ∀ later ∈ addedLine, ∃ changes,
    Diff.detect .ample call.text later.text = .ok changes ∧
      IsEditScript changes call.text later.text := by
  have short : (LineIndex.ofText "a\nb\n").rows = ["a\n", "b\n"] := by decide
  have long : (LineIndex.ofText "a\nb\nc\n").rows = ["a\n", "b\n", "c\n"] := by decide
  simp only [addedLine, List.mem_cons, List.not_mem_nil, or_false, forall_eq_or_imp, forall_eq]
  refine ⟨⟨detect_self _, _, detect_addedLine, ?_⟩, ⟨[⟨⟨2, 3⟩, ⟨2, 2⟩⟩], rfl, ?_⟩, detect_self _⟩
  · rw [IsEditScript, short, long]
    exact .change ["a\n", "b\n"] [] ["c\n"] (.done _ _ [])
  · rw [IsEditScript, short, long]
    exact .change ["a\n", "b\n"] ["c\n"] [] (.done _ _ [])

theorem addedLine_scripts : ∀ call ∈ addedLine, ∀ later ∈ addedLine, ∀ changes,
    Diff.detect .ample call.text later.text = .ok changes →
      IsEditScript changes call.text later.text :=
  scripts_of_compared detect_of_addedLine

end Chunking
