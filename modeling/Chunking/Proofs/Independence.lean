/-
Files do not get in each other's way. In a store without a limit, whatever is asked
about a file is answered from what the store holds for that file, and changes
nothing but that and the clock. So two such tasks on different files can be done in
either order, and several files can be brought up to date in any order; what differs
afterwards is only which file was used last.
-/

import Chunking.Proofs.Indexing

namespace Chunking

/-! ### What is in a store -/

namespace Store

/-- What a store holds for a file: no slot, a slot with nothing in it, or a snapshot. -/
def content? (store : Store) (file : String) : Option (Option Snapshot) :=
  (store.slots.get? file).map Slot.current

theorem peek?_eq_join (store : Store) (file : String) :
    store.peek? file = (store.content? file).join := by
  unfold peek? content?
  cases store.slots.get? file <;> rfl

theorem content?_erase_self (store : Store) (file : String) :
    ({ store with slots := store.slots.erase file } : Store).content? file = none := by
  rw [content?, Dictionary.get?_erase_self]
  rfl

theorem content?_erase_of_ne (store : Store) {file name : String} (different : name ≠ file) :
    ({ store with slots := store.slots.erase file } : Store).content? name =
      store.content? name := by
  rw [content?, Dictionary.get?_erase_of_ne _ different]
  rfl

/-- Something else is held for one file, some time has passed, and all the rest is as it was. -/
structure Replaces (before : Store) (file : String) (content : Option (Option Snapshot))
    (ticks : Nat) (after : Store) : Prop where
  own : after.content? file = content
  others : ∀ name, name ≠ file → after.content? name = before.content? name
  clock : after.clock = before.clock + ticks
  capacity : after.capacity = before.capacity
  evictions : after.evictions = before.evictions

theorem replaces_self (store : Store) (file : String) :
    store.Replaces file (store.content? file) 0 store :=
  ⟨rfl, fun _ _ => rfl, rfl, rfl, rfl⟩

theorem replaces_erase (store : Store) (file : String) :
    store.Replaces file none 0 { store with slots := store.slots.erase file } :=
  ⟨store.content?_erase_self file, fun _ different => store.content?_erase_of_ne different, rfl, rfl,
    rfl⟩

/-- A slot in which nothing was published stays if there is something in it. -/
theorem replaces_abandoned (store : Store) (file : String) :
    store.Replaces file ((store.peek? file).map some) 0 (store.abandoned file) := by
  by_cases occupied : ∀ slot ∈ store.slots.get? file, slot.current.isSome = true
  · have kept : (store.peek? file).map some = store.content? file := by
      unfold peek? content?
      cases found : store.slots.get? file with
      | none => rfl
      | some slot =>
        obtain ⟨snapshot, inside⟩ := Option.isSome_iff_exists.mp (occupied slot found)
        rw [Option.bind_some, Option.map_some, inside, Option.map_some]
    rw [abandoned_eq_self occupied, kept]
    exact store.replaces_self file
  · push Not at occupied
    obtain ⟨slot, found, empty⟩ := occupied
    have nothing : store.peek? file = none := by
      rw [peek?, Option.mem_def.mp found, Option.bind_some]
      simpa using empty
    rw [abandoned, reserve_of_get? found, nothing]
    exact store.replaces_erase file

theorem replaces_publish {store : Store} (unbounded : store.capacity = none) (file : String)
    (snapshot : Snapshot) :
    store.Replaces file (some (some snapshot)) 1 (store.publish file snapshot) := by
  have room : ∀ capacity ∈ store.capacity, (store.slots.erase file).size < capacity := by
    rw [unbounded]
    rintro _ ⟨⟩
  rw [publish_eq_touch room]
  refine ⟨?_, fun name different => ?_, rfl, rfl, rfl⟩
  · rw [content?, touch, Dictionary.get?_insert_self]
    rfl
  · rw [content?, touch, Dictionary.get?_insert_of_ne _ different]
    rfl

/-- Two stores that differ in nothing but the order in which files were used. -/
structure Alike (left right : Store) : Prop where
  content : ∀ file, left.content? file = right.content? file
  clock : left.clock = right.clock
  capacity : left.capacity = right.capacity
  evictions : left.evictions = right.evictions

theorem Alike.refl (store : Store) : store.Alike store :=
  ⟨fun _ => rfl, rfl, rfl, rfl⟩

theorem Alike.trans {first second third : Store} (left : first.Alike second)
    (right : second.Alike third) : first.Alike third :=
  ⟨fun file => (left.content file).trans (right.content file), left.clock.trans right.clock,
    left.capacity.trans right.capacity, left.evictions.trans right.evictions⟩

/-- The same change leaves stores alike. -/
theorem Alike.replaces {left right leftAfter rightAfter : Store} (alike : left.Alike right)
    {file : String} {content : Option (Option Snapshot)} {ticks : Nat}
    (first : left.Replaces file content ticks leftAfter)
    (second : right.Replaces file content ticks rightAfter) : leftAfter.Alike rightAfter := by
  refine ⟨fun name => ?_, ?_, ?_, ?_⟩
  · by_cases same : name = file
    · rw [same, first.own, second.own]
    · rw [first.others name same, second.others name same, alike.content]
  · rw [first.clock, second.clock, alike.clock]
  · rw [first.capacity, second.capacity, alike.capacity]
  · rw [first.evictions, second.evictions, alike.evictions]

/-- Changes for two different files can be made in either order. -/
theorem Replaces.comm {store afterFirst afterSecond both others : Store} {first second : String}
    (different : first ≠ second) {left right : Option (Option Snapshot)} {ticks moreTicks : Nat}
    (one : store.Replaces first left ticks afterFirst)
    (two : afterFirst.Replaces second right moreTicks both)
    (otherOne : store.Replaces second right moreTicks afterSecond)
    (otherTwo : afterSecond.Replaces first left ticks others) : both.Alike others := by
  refine ⟨fun name => ?_, ?_, ?_, ?_⟩
  · by_cases isFirst : name = first
    · rw [isFirst, two.others first different, one.own, otherTwo.own]
    · by_cases isSecond : name = second
      · rw [isSecond, two.own, otherTwo.others second different.symm, otherOne.own]
      · rw [two.others name isSecond, one.others name isFirst, otherTwo.others name isFirst,
          otherOne.others name isSecond]
  · rw [two.clock, one.clock, otherTwo.clock, otherOne.clock, Nat.add_right_comm]
  · rw [two.capacity, one.capacity, otherTwo.capacity, otherOne.capacity]
  · rw [two.evictions, one.evictions, otherTwo.evictions, otherOne.evictions]

/-- Work on a store that is without a limit is about one file: what is held for the file decides
about everything that is done, and nothing else is touched. -/
def Local {α : Type} (file : String) (work : Store → α × Store) : Prop :=
  ∀ content, ∃ result after ticks, ∀ store : Store, store.capacity = none →
    store.content? file = content →
      (work store).1 = result ∧ store.Replaces file after ticks (work store).2

theorem local_invalidate (file : String) : Local file fun store => store.invalidate file := by
  refine fun content => ⟨content.join.isSome, none, 0, fun store _ held => ⟨?_, ?_⟩⟩
  · change (store.peek? file).isSome = _
    rw [peek?_eq_join, held]
  · exact store.replaces_erase file

variable {α β : Type}

theorem Local.map {file : String} {work : Store → α × Store} (isLocal : Local file work)
    (change : α → β) : Local file fun store => (change (work store).1, (work store).2) := by
  intro content
  obtain ⟨result, after, ticks, does⟩ := isLocal content
  refine ⟨change result, after, ticks, fun store unbounded held => ?_⟩
  obtain ⟨same, replaces⟩ := does store unbounded held
  exact ⟨congrArg change same, replaces⟩

/-- Stores that hold the same for the file give the same result, and hold the same afterwards. -/
theorem Local.congr {file : String} {work : Store → α × Store} (isLocal : Local file work)
    {left right : Store} (leftUnbounded : left.capacity = none)
    (rightUnbounded : right.capacity = none) (same : left.content? file = right.content? file) :
    (work left).1 = (work right).1 ∧
      (work left).2.content? file = (work right).2.content? file := by
  obtain ⟨result, after, ticks, does⟩ := isLocal (right.content? file)
  obtain ⟨leftResult, leftReplaces⟩ := does left leftUnbounded same
  obtain ⟨rightResult, rightReplaces⟩ := does right rightUnbounded rfl
  exact ⟨leftResult.trans rightResult.symm, leftReplaces.own.trans rightReplaces.own.symm⟩

theorem Local.capacity {file : String} {work : Store → α × Store} (isLocal : Local file work)
    {store : Store} (unbounded : store.capacity = none) : (work store).2.capacity = none := by
  obtain ⟨result, after, ticks, does⟩ := isLocal (store.content? file)
  exact (does store unbounded rfl).2.capacity.trans unbounded

theorem Local.alike {file : String} {work : Store → α × Store} (isLocal : Local file work)
    {left right : Store} (unbounded : left.capacity = none) (alike : left.Alike right) :
    (work left).1 = (work right).1 ∧ (work left).2.Alike (work right).2 := by
  obtain ⟨result, after, ticks, does⟩ := isLocal (left.content? file)
  obtain ⟨leftResult, leftReplaces⟩ := does left unbounded rfl
  obtain ⟨rightResult, rightReplaces⟩ :=
    does right (alike.capacity.symm.trans unbounded) (alike.content file).symm
  exact ⟨leftResult.trans rightResult.symm, alike.replaces leftReplaces rightReplaces⟩

/-- Work on two different files can be done in either order. -/
theorem Local.comm {first second : String} {one : Store → α × Store} {two : Store → β × Store}
    (oneLocal : Local first one) (twoLocal : Local second two) (different : first ≠ second)
    {store : Store} (unbounded : store.capacity = none) :
    (one (two store).2).1 = (one store).1 ∧ (two (one store).2).1 = (two store).1 ∧
      (two (one store).2).2.Alike (one (two store).2).2 := by
  obtain ⟨oneResult, oneAfter, oneTicks, oneDoes⟩ := oneLocal (store.content? first)
  obtain ⟨twoResult, twoAfter, twoTicks, twoDoes⟩ := twoLocal (store.content? second)
  obtain ⟨oneFirst, oneReplaces⟩ := oneDoes store unbounded rfl
  obtain ⟨twoFirst, twoReplaces⟩ := twoDoes store unbounded rfl
  obtain ⟨oneLater, oneReplacesLater⟩ := oneDoes (two store).2 (twoLocal.capacity unbounded)
    (twoReplaces.others first different)
  obtain ⟨twoLater, twoReplacesLater⟩ := twoDoes (one store).2 (oneLocal.capacity unbounded)
    (oneReplaces.others second different.symm)
  exact ⟨oneLater.trans oneFirst.symm, twoLater.trans twoFirst.symm,
    oneReplaces.comm different twoReplacesLater twoReplaces oneReplacesLater⟩

end Store

/-! ### Tasks -/

namespace Engine

variable {σ τ : Type} (engine : Engine)

/-- A call of the engine is about its file, whatever goes on around it. -/
theorem local_transact (host : Host σ) (state : σ) (file text : String) (language : Language)
    (request : Request) : Store.Local file fun store =>
      let done := (engine.transact host store file text language request).run state
      ((done.1.1, done.2), done.1.2) := by
  intro content
  simp only [transact_run]
  cases registered : engine.registry.get language with
  | error error =>
    refine ⟨(.error error, state), content, 0, fun store _ held => ⟨rfl, ?_⟩⟩
    rw [← held]
    exact store.replaces_self file
  | ok processor =>
    have abandons (store : Store) (held : store.content? file = content) :
        store.Replaces file (content.join.map some) 0 (store.abandoned file) := by
      rw [← held, ← Store.peek?_eq_join]
      exact store.replaces_abandoned file
    simp only
    cases built : (engine.build host ⟨file, text, language, processor⟩ request
      content.join).run.run state with
    | mk result left =>
      have start (store : Store) (held : store.content? file = content) :
          (engine.build host ⟨file, text, language, processor⟩ request
            (store.peek? file)).run.run state = (result, left) := by
        rw [store.peek?_eq_join, held, built]
      cases result with
      | error error =>
        refine ⟨(.error error, left), content.join.map some, 0, fun store _ held => ?_⟩
        rw [start store held]
        exact ⟨rfl, abandons store held⟩
      | ok outcome =>
        by_cases known : outcome.report.mode = .unchanged
        · refine ⟨(.ok outcome, left), content.join.map some, 0, fun store _ held => ?_⟩
          simp only [start store held, if_pos known]
          exact ⟨trivial, abandons store held⟩
        · cases checked : (host.check file).run.run left with
          | mk verdict last =>
            cases verdict with
            | error error =>
              refine ⟨(.error error, last), content.join.map some, 0, fun store _ held => ?_⟩
              simp only [start store held, if_neg known, checked]
              exact ⟨trivial, abandons store held⟩
            | ok _ =>
              refine ⟨(.ok outcome, last), some (some ⟨outcome.version, text⟩), 1,
                fun store unbounded held => ?_⟩
              simp only [start store held, if_neg known, checked]
              exact ⟨trivial, store.replaces_publish unbounded file _⟩

/-- What can be asked about a file, each time in surroundings of its own. -/
inductive FileTask (σ : Type) where
  /-- To bring it up to date with a text. -/
  | update (request : Request) (text : String) (language : Language) (host : Host σ) (state : σ)
  /-- To forget about it. -/
  | invalidate

/-- The answer to a task, with the state in which the surroundings of a call are left. -/
inductive FileReply (σ : Type) where
  | updated (result : Except Error Outcome) (state : σ)
  | invalidated (existed : Bool)

/-- Does a task on a file. -/
def execute (file : String) (task : FileTask σ) (store : Store) : FileReply σ × Store :=
  match task with
  | .update request text language host state =>
    let done := (engine.transact host store file text language request).run state
    (.updated done.1.1 done.2, done.1.2)
  | .invalidate => (.invalidated (store.invalidate file).1, (store.invalidate file).2)

theorem local_execute (file : String) (task : FileTask σ) :
    Store.Local file (engine.execute file task) := by
  cases task with
  | update request text language host state =>
    exact (engine.local_transact host state file text language request).map
      fun done => FileReply.updated done.1 done.2
  | invalidate => exact (Store.local_invalidate file).map FileReply.invalidated

theorem local_perform (request : Request) (input : SourceInput) :
    Store.Local input.file fun store => engine.perform request store input :=
  (engine.local_transact Host.plain () input.file input.text input.language request).map Prod.fst

/-! ### Several files -/

theorem performAll_alike (request : Request) {left right : Store} (unbounded : left.capacity = none)
    (alike : left.Alike right) (inputs : List SourceInput) :
    (engine.performAll request left inputs).2.Alike (engine.performAll request right inputs).2 := by
  induction inputs generalizing left right with
  | nil => exact alike
  | cons input rest inductionHypothesis =>
    have isLocal := engine.local_perform request input
    exact inductionHypothesis (isLocal.capacity unbounded) (isLocal.alike unbounded alike).2

theorem performAll_perm (request : Request) {order inputs : List SourceInput}
    (reordered : order.Perm inputs) {store : Store} (unbounded : store.capacity = none)
    (distinct : (inputs.map SourceInput.file).Nodup) :
    (engine.performAll request store order).2.Alike (engine.performAll request store inputs).2 := by
  induction reordered generalizing store with
  | nil => exact .refl store
  | cons input rest inductionHypothesis =>
    rw [List.map_cons, List.nodup_cons] at distinct
    exact inductionHypothesis ((engine.local_perform request input).capacity unbounded) distinct.2
  | swap first second rest =>
    have different : first.file ≠ second.file := by
      rw [List.map_cons, List.map_cons, List.nodup_cons] at distinct
      exact fun same => distinct.1 (same ▸ List.mem_cons_self)
    have firstLocal := engine.local_perform request first
    have secondLocal := engine.local_perform request second
    obtain ⟨_, _, alike⟩ := secondLocal.comm firstLocal different.symm unbounded
    exact engine.performAll_alike request (firstLocal.capacity (secondLocal.capacity unbounded))
      alike rest
  | trans early late earlyHypothesis lateHypothesis =>
    have distinctBetween := (late.map SourceInput.file).nodup_iff.mpr distinct
    exact (earlyHypothesis unbounded distinctBetween).trans (lateHypothesis unbounded distinct)

/-- Files do not get in each other's way in a store. -/
structure FilesApart (engine : Engine) (store : Store) : Prop where
  /-- A task is answered from what is held for its file, and leaves there what follows from that. -/
  own : ∀ {σ : Type} (file : String) (task : FileTask σ) (other : Store), other.capacity = none →
    other.content? file = store.content? file →
      (engine.execute file task other).1 = (engine.execute file task store).1 ∧
        (engine.execute file task other).2.content? file =
          (engine.execute file task store).2.content? file
  /-- Two tasks on different files give the same replies in either order. -/
  swap : ∀ {σ τ : Type} (first second : String) (one : FileTask σ) (two : FileTask τ),
    first ≠ second →
      let afterOne := (engine.execute first one store).2
      let afterTwo := (engine.execute second two store).2
      (engine.execute first one afterTwo).1 = (engine.execute first one store).1 ∧
        (engine.execute second two afterOne).1 = (engine.execute second two store).1 ∧
        (engine.execute second two afterOne).2.Alike (engine.execute first one afterTwo).2
  /-- In whatever order different files are brought up to date, each has the same result, which
  follows from what was held for it at the start. -/
  batch : ∀ (request : Request) (inputs order : List SourceInput),
    (inputs.map SourceInput.file).Nodup → order.Perm inputs →
      (engine.performAll request store order).1 =
          order.map (fun input =>
            engine.answer input.file (store.peek? input.file) (input.call request)) ∧
        (engine.performAll request store order).2.Alike (engine.performAll request store inputs).2

/-- Where nothing is ever dropped, files do not get in each other's way. -/
theorem filesApart_of_unbounded {store : Store} (unbounded : store.capacity = none) :
    engine.FilesApart store := by
  refine ⟨?_, ?_, ?_⟩
  · intro σ file task other otherUnbounded same
    exact (engine.local_execute file task).congr otherUnbounded unbounded same
  · intro σ τ first second one two different
    have firstLocal := engine.local_execute first one
    exact firstLocal.comm (engine.local_execute second two) different unbounded
  · intro request inputs order distinct reordered
    have roomy : store.Roomy (order.map SourceInput.file) := by
      intro capacity bounded
      rw [unbounded] at bounded
      cases bounded
    have distinctOrder := (reordered.map SourceInput.file).nodup_iff.mpr distinct
    have listed : ∀ input ∈ order, input.file ∈ order.map SourceInput.file :=
      fun input member => List.mem_map_of_mem member
    exact ⟨engine.performAll_roomy request roomy listed distinctOrder,
      engine.performAll_perm request reordered unbounded distinct⟩

/-- Two files in a store, of which the one that was used last is another one if they are brought up
to date in the other order. -/
theorem filesApart_of_unbounded_linewise :
    let engine := linewise (fun _ => .function) fun _ => "line"
    let inputs : List SourceInput := [⟨"first", "a\n", .python⟩, ⟨"second", "b\n", .python⟩]
    let store := (engine.performAll .auto (.empty none) inputs).2
    let other := (engine.performAll .auto (.empty none) inputs.reverse).2
    (store.capacity = none ∧ store.keys = ["first", "second"] ∧
        store.slots.entries.map (·.2.lastUsed) = [1, 2] ∧
        other.slots.entries.map (·.2.lastUsed) = [2, 1]) ∧
      engine.FilesApart store := by
  intro engine inputs store other
  have facts : store.capacity = none ∧ store.keys = ["first", "second"] ∧
      store.slots.entries.map (·.2.lastUsed) = [1, 2] ∧
      other.slots.entries.map (·.2.lastUsed) = [2, 1] := by decide +kernel
  exact ⟨facts, engine.filesApart_of_unbounded facts.1⟩

end Engine

end Chunking
