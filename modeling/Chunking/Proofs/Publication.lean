/-
Publication is all or nothing. Whatever processors answer and whenever someone
asks to stop, a call that fails, or that finds the text already known, leaves the
store as it was, with no slot that has nothing in it. A call that succeeds leaves
the version that it returns, which has passed the check, together with its text;
all other slots stay as they are, except those for which there is no room any
more.

The engine makes versions in one place only, and checks them there. That this is
so for every way through the engine is said with postconditions of work that hold
in all surroundings.
-/

import Chunking.Engine.Scripted
import Chunking.Proofs.Runs

namespace Chunking

/-! ### Results of work -/

namespace Work

variable {σ α β : Type}

/-- Whatever the surroundings do, a result of the work is a good one. -/
def Ensures (work : Work σ α) (good : α → Prop) : Prop :=
  ∀ state value left, work.run.run state = (.ok value, left) → good value

theorem ensures_true (work : Work σ α) : work.Ensures fun _ => True :=
  fun _ _ _ _ => trivial

theorem ensures_pure {value : α} {good : α → Prop} (holds : good value) :
    (pure value : Work σ α).Ensures good := by
  rintro state _ left ⟨⟩
  exact holds

theorem ensures_throw (error : Error) (good : α → Prop) :
    (throw error : Work σ α).Ensures good := by
  rintro state value left ⟨⟩

theorem ensures_lift (value : Except Error α) :
    (liftM value : Work σ α).Ensures fun result => value = .ok result := by
  intro state result left given
  exact congrArg Prod.fst given

theorem Ensures.bind {work : Work σ α} {next : α → Work σ β} {between : α → Prop}
    {good : β → Prop} (first : work.Ensures between)
    (later : ∀ value, between value → (next value).Ensures good) :
    (work >>= next).Ensures good := by
  intro state value left given
  rw [run_bind] at given
  cases done : work.run.run state with
  | mk result after =>
    rw [done] at given
    cases result with
    | error error => cases given
    | ok middle => exact later middle (first state middle after done) after value left given

/-- Work about whose result nothing is known. -/
theorem ensures_bind {work : Work σ α} {next : α → Work σ β} {good : β → Prop}
    (later : ∀ value, (next value).Ensures good) : (work >>= next).Ensures good :=
  (ensures_true work).bind fun value _ => later value

end Work

/-! ### Versions are checked -/

namespace Engine

variable {σ : Type} (engine : Engine) (host : Host σ) (job : Job)

/-- A result that deserves to be current: either it is so already, or it has been checked. -/
def Publishable (job : Job) (prior : Option Snapshot) (outcome : Outcome) : Prop :=
  if outcome.report.mode = .unchanged then prior = some ⟨outcome.version, job.text⟩
  else outcome.version.validate (some job.text) = .ok ()

/-- A plan keeps nothing but what is current, and whatever is to be made counts as new. -/
def Suits (job : Job) (prior : Option Snapshot) : Plan → Prop
  | .keep version => prior = some ⟨version, job.text⟩
  | .merge making => making.mode ≠ .unchanged

theorem Suits.publishable {job : Job} {prior : Option Snapshot} {plan : Plan} {outcome : Outcome}
    (suits : Suits job prior plan) (concluded : plan.conclude job = .ok outcome) :
    Publishable job prior outcome := by
  cases plan with
  | keep version =>
    cases concluded
    exact suits
  | merge making =>
    rw [Plan.conclude_merge] at concluded
    obtain ⟨passed, rfl⟩ := Job.checked_eq_ok_iff.mp concluded
    have new : (making.report making.input.outcome).mode ≠ .unchanged := suits
    rw [Publishable, if_neg new]
    exact passed

theorem fullParse_ensures (base : Option Version) (changes : List LineChange) (reason : Escalation)
    (prior : Option Snapshot) :
    (engine.fullParse host job base changes reason).Ensures (Suits job prior) := by
  unfold fullParse
  refine Work.ensures_bind fun _ => Work.ensures_bind fun _ => Work.ensures_bind fun extraction =>
    Work.ensures_bind fun _ => Work.ensures_pure ?_
  exact fun same : Mode.full = .unchanged => nomatch same

theorem reparse_ensures (version : Version) (changes : List LineChange) (prior : Option Snapshot) :
    (engine.reparse host job version changes).Ensures (Suits job prior) := by
  unfold reparse
  simp only
  split
  · exact engine.fullParse_ensures host job _ _ _ prior
  · refine Work.ensures_bind fun found => ?_
    split
    · exact engine.fullParse_ensures host job _ _ _ prior
    · refine Work.ensures_bind fun _ => Work.ensures_pure ?_
      exact fun same : Mode.incremental = .unchanged => nomatch same

theorem update_ensures (request : Request) (snapshot : Snapshot) :
    (engine.update host job request snapshot).Ensures (Suits job (some snapshot)) := by
  unfold update
  simp only
  split
  · exact engine.fullParse_ensures host job _ _ _ _
  · split
    next sameText =>
      refine Work.ensures_pure ?_
      change some snapshot = some ⟨snapshot.version, job.text⟩
      rw [← sameText]
    next =>
      split
      · exact engine.fullParse_ensures host job _ _ _ _
      · split
        · split
          · exact engine.fullParse_ensures host job _ _ _ _
          · exact Work.ensures_throw _ _
        · exact Work.ensures_bind fun _ => engine.reparse_ensures host job _ _ _

theorem plan_ensures (request : Request) (prior : Option Snapshot) :
    (engine.plan host job request prior).Ensures (Suits job prior) := by
  unfold plan
  refine Work.ensures_bind fun _ => ?_
  cases prior with
  | none => exact engine.fullParse_ensures host job _ _ _ _
  | some snapshot =>
    simp only
    split
    · exact engine.update_ensures host job request snapshot
    · exact engine.fullParse_ensures host job _ _ _ _

theorem build_ensures (request : Request) (prior : Option Snapshot) :
    (engine.build host job request prior).Ensures (Publishable job prior) := by
  refine (engine.plan_ensures host job request prior).bind fun plan suits => ?_
  intro state outcome left concluded
  exact suits.publishable (Work.ensures_lift _ state outcome left concluded)

end Engine

/-! ### What becomes of the store -/

namespace Store

/-- There is something in every slot. -/
def Filled (store : Store) : Prop :=
  ∀ key, ∀ slot ∈ store.slots.get? key, slot.current.isSome = true

theorem filled_empty (capacity : Option Nat) : (empty capacity).Filled := by
  rintro key slot ⟨⟩

/-- The files for which there is no room any more when a file has been used. -/
def dropped (store : Store) (kept : String) : List String :=
  store.capacity.elim [] (store.victims kept)

theorem evict_eq (store : Store) (kept : String) :
    store.evict kept =
      { store with
        slots := (store.dropped kept).foldl Dictionary.erase store.slots
        evictions := store.evictions + (store.dropped kept).length } := by
  unfold evict dropped
  cases store with
  | mk capacity slots clock evictions => cases capacity <;> rfl

/-- Some files had to go in favour of another one: as many as were too many beside it, and no
others. -/
structure MakesRoom (store : Store) (kept : String) (dropped : List String) : Prop where
  distinct : dropped.Nodup
  others : ∀ name ∈ dropped, name ≠ kept ∧ store.slots.contains name = true
  count : dropped.length =
    store.capacity.elim 0 fun capacity => (store.slots.erase kept).size - (capacity - 1)

theorem makesRoom_dropped (store : Store) (kept : String) (snapshot : Snapshot) :
    store.MakesRoom kept ((store.touch kept snapshot).dropped kept) := by
  unfold dropped
  change store.MakesRoom kept (store.capacity.elim [] _)
  cases bounded : store.capacity with
  | none => exact ⟨List.nodup_nil, fun _ member => absurd member List.not_mem_nil, by rw [bounded]; rfl⟩
  | some capacity =>
    obtain ⟨row, others, first⟩ := (store.touch kept snapshot).victims_eq_take kept capacity
    have size : (store.touch kept snapshot).size = (store.slots.erase kept).size + 1 :=
      Dictionary.size_insert store.slots kept _
    have length : row.length = (store.slots.erase kept).size := by
      rw [others.length_eq, ← Dictionary.keys_erase, Dictionary.keys, List.length_map]
      exact congrArg List.length (Dictionary.filter_insertEntry kept _ store.slots.entries)
    rw [Option.elim_some, first]
    refine ⟨?_, fun name member => ?_, ?_⟩
    · have nodup := (Dictionary.nodup_keys (store.touch kept snapshot).slots).erase kept
      exact (others.nodup_iff.mpr nodup).sublist (List.take_sublist _ _)
    · have among := others.mem_iff.mp (List.mem_of_mem_take member)
      rw [(Dictionary.nodup_keys _).mem_erase_iff, Dictionary.mem_keys] at among
      obtain ⟨different, there⟩ := among
      rw [touch, Dictionary.get?_insert_of_ne _ different] at there
      exact ⟨different, there⟩
    · rw [bounded, Option.elim_some, List.length_take, length, size]
      omega

/-- A snapshot has been published, and nothing else has happened. -/
structure Publishes (store : Store) (file : String) (snapshot : Snapshot) (after : Store) : Prop where
  entry : after.slots.get? file = some ⟨some snapshot, store.clock + 1⟩
  clock : after.clock = store.clock + 1
  capacity : after.capacity = store.capacity
  others : ∃ dropped, store.MakesRoom file dropped ∧
    after.evictions = store.evictions + dropped.length ∧
    ∀ name, name ≠ file →
      after.slots.get? name = if name ∈ dropped then none else store.slots.get? name

theorem publishes_publish (store : Store) (file : String) (snapshot : Snapshot) :
    store.Publishes file snapshot (store.publish file snapshot) := by
  refine ⟨get?_publish store file snapshot, ?_, ?_, _, makesRoom_dropped store file snapshot, ?_, ?_⟩
  · rw [publish, evict_eq]
    rfl
  · rw [publish, evict_eq]
    rfl
  · rw [publish, evict_eq]
    rfl
  · intro name different
    rw [publish, evict_eq, get?_foldl_erase, touch, Dictionary.get?_insert_of_ne _ different]

/-- What is published for one file leaves the snapshot of another one alone, or drops it. -/
theorem peek?_publish_of_ne (store : Store) {key name : String} (different : name ≠ key)
    (snapshot : Snapshot) :
    (store.publish key snapshot).peek? name = store.peek? name ∨
      (store.publish key snapshot).peek? name = none := by
  obtain ⟨dropped, _, _, others⟩ := (store.publishes_publish key snapshot).others
  rw [peek?, others name different]
  split
  · exact Or.inr rfl
  · exact Or.inl rfl

theorem Publishes.filled {store after : Store} {file : String} {snapshot : Snapshot}
    (published : store.Publishes file snapshot after) (filled : store.Filled) : after.Filled := by
  obtain ⟨dropped, _, _, others⟩ := published.others
  intro key slot found
  by_cases same : key = file
  · rw [same, published.entry] at found
    cases found
    rfl
  · rw [others key same] at found
    split at found
    · cases found
    · exact filled key slot found

end Store

/-! ### All or nothing -/

namespace Engine

/-- What a call for a text leaves behind, by its result. -/
structure AllOrNothing (store : Store) (file text : String) (result : Except Error Outcome)
    (after : Store) : Prop where
  failed : ∀ error, result = .error error → after = store
  known : ∀ outcome, result = .ok outcome → outcome.report.mode = .unchanged →
    after = store ∧ store.peek? file = some ⟨outcome.version, text⟩
  published : ∀ outcome, result = .ok outcome → outcome.report.mode ≠ .unchanged →
    outcome.version.validate (some text) = .ok () ∧
      store.Publishes file ⟨outcome.version, text⟩ after
  filled : after.Filled

variable {σ : Type}

theorem allOrNothing_error {store : Store} (filled : store.Filled) (file text : String) (error : Error) :
    AllOrNothing store file text (.error error) store := by
  refine ⟨fun _ _ => rfl, ?_, ?_, filled⟩
  · rintro outcome ⟨⟩
  · rintro outcome ⟨⟩

/-- Whatever processors answer and whenever someone asks to stop, a call either leaves the store as
it was or publishes the checked version that it returns. -/
theorem transact_allOrNothing (engine : Engine) (host : Host σ) (state : σ) (store : Store)
    (filled : store.Filled) (file text : String) (language : Language) (request : Request) :
    let done := ((engine.transact host store file text language request).run state).1
    AllOrNothing store file text done.1 done.2 := by
  have same : store.abandoned file = store := Store.abandoned_eq_self (filled file)
  simp only
  rw [transact_run, same]
  cases engine.registry.get language with
  | error error => exact allOrNothing_error filled file text error
  | ok processor =>
    simp only
    split
    next error left built => exact allOrNothing_error filled file text error
    next outcome left built =>
      have good := engine.build_ensures host ⟨file, text, language, processor⟩ request
        (store.peek? file) state outcome left built
      unfold Publishable at good
      split
      next known =>
        rw [if_pos known] at good
        refine ⟨?_, ?_, ?_, filled⟩
        · rintro error ⟨⟩
        · rintro _ ⟨⟩ _
          exact ⟨rfl, good⟩
        · rintro _ ⟨⟩ new
          exact absurd known new
      next new =>
        rw [if_neg new] at good
        split
        · exact allOrNothing_error filled file text _
        · have published := store.publishes_publish file ⟨outcome.version, text⟩
          refine ⟨?_, ?_, ?_, published.filled filled⟩
          · rintro error ⟨⟩
          · rintro _ ⟨⟩ known
            exact absurd known new
          · rintro _ ⟨⟩ _
            exact ⟨good, published⟩

/-- There is room for one file. Someone asks to stop while the first text is being parsed; when it is
parsed again, the file is entered, and a second file takes its place. -/
theorem transact_allOrNothing_scripted :
    let engine := linewise (fun _ => .function) fun _ => "line"
    let stopped := ((engine.transact Script.host (.empty (some 1)) "first" "a\n" .python .auto).run
      { cancelAfter := some 1 }).1
    let entered := ((engine.transact Script.host stopped.2 "first" "a\n" .python .auto).run {}).1
    let replaced := ((engine.transact Script.host entered.2 "second" "b\n" .python .auto).run {}).1
    (stopped.1.toOption.isNone = true ∧
        AllOrNothing (.empty (some 1)) "first" "a\n" stopped.1 stopped.2) ∧
      replaced.2.keys = ["second"] ∧
        AllOrNothing entered.2 "second" "b\n" replaced.1 replaced.2 := by
  intro engine stopped entered replaced
  have first := engine.transact_allOrNothing Script.host { cancelAfter := some 1 } (.empty (some 1))
    (Store.filled_empty _) "first" "a\n" .python .auto
  have second := engine.transact_allOrNothing Script.host {} stopped.2 first.filled "first" "a\n"
    .python .auto
  have third := engine.transact_allOrNothing Script.host {} entered.2 second.filled "second" "b\n"
    .python .auto
  exact ⟨⟨by decide +kernel, first⟩, by decide +kernel, third⟩

end Engine

end Chunking
