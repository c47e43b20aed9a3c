/-
The slot of a file while someone works on it. A store that has to make room for a
slot and takes it away again is the store that it was, and what is published in a
slot that was only just made is published as if it had always been there. With
these two facts all that a call of the engine can do to a store is one equation:
either the slot is left as it was found, or the version found is published in it
after the last question whether to stop.
-/

import Chunking.Engine
import Chunking.Proofs.Dictionary

namespace Chunking

/-! ### The store -/

namespace Store

theorem get?_foldl_erase (victims : List String) (slots : Dictionary Slot) (name : String) :
    (victims.foldl Dictionary.erase slots).get? name =
      if name ∈ victims then none else slots.get? name := by
  induction victims generalizing slots with
  | nil => rw [List.foldl_nil, if_neg List.not_mem_nil]
  | cons victim rest inductionHypothesis =>
    rw [List.foldl_cons, inductionHypothesis]
    by_cases same : name = victim
    · rw [same, Dictionary.get?_erase_self, ite_self, if_pos List.mem_cons_self]
    · simp only [Dictionary.get?_erase_of_ne _ same, List.mem_cons, same, false_or]

/-- Files are dropped from the front of a row of all the other ones. -/
theorem victims_eq_take (store : Store) (kept : String) (capacity : Nat) :
    ∃ row : List String, row.Perm (store.slots.keys.erase kept) ∧
      store.victims kept capacity = row.take (store.size - capacity) := by
  refine ⟨((store.slots.erase kept).entries.mergeSort leastUsedFirst).map Prod.fst, ?_, ?_⟩
  · rw [← Dictionary.keys_erase]
    exact (List.mergeSort_perm _ _).map _
  · exact List.map_take

theorem not_mem_victims (store : Store) (kept : String) (capacity : Nat) :
    kept ∉ store.victims kept capacity := by
  obtain ⟨row, others, first⟩ := store.victims_eq_take kept capacity
  intro member
  rw [first] at member
  exact (Dictionary.nodup_keys store.slots).not_mem_erase (others.mem_iff.mp (List.mem_of_mem_take member))

/-- What is published is current, whatever had to go for it. -/
theorem get?_publish (store : Store) (key : String) (snapshot : Snapshot) :
    (store.publish key snapshot).slots.get? key = some ⟨some snapshot, store.clock + 1⟩ := by
  have touched : (store.touch key snapshot).slots.get? key = some ⟨some snapshot, store.clock + 1⟩ := by
    rw [touch, Dictionary.get?_insert_self]
  unfold publish evict
  split
  · exact touched
  · rw [get?_foldl_erase, if_neg (not_mem_victims _ key _)]
    exact touched

theorem peek?_publish (store : Store) (key : String) (snapshot : Snapshot) :
    (store.publish key snapshot).peek? key = some snapshot := by
  rw [peek?, get?_publish, Option.bind_some]

/-! ### Slots that are made and taken away -/

theorem reserve_of_get? {store : Store} {key : String} {slot : Slot}
    (there : store.slots.get? key = some slot) : store.reserve key = store := by
  rw [reserve, Dictionary.contains, there, Option.isSome_some, if_pos rfl]

theorem reserve_of_get?_eq_none {store : Store} {key : String}
    (missing : store.slots.get? key = none) :
    store.reserve key = { store with slots := store.slots.insert key {} } := by
  rw [reserve, Dictionary.contains, missing, Option.isSome_none, if_neg Bool.false_ne_true]

theorem peek?_reserve (store : Store) (key : String) :
    (store.reserve key).peek? key = store.peek? key := by
  cases found : store.slots.get? key with
  | some slot => rw [reserve_of_get? found]
  | none =>
    rw [reserve_of_get?_eq_none found, peek?, peek?, found, Dictionary.get?_insert_self]
    rfl

/-- It makes no difference for a publication whether there was a slot. -/
theorem publish_reserve (store : Store) (key : String) (snapshot : Snapshot) :
    (store.reserve key).publish key snapshot = store.publish key snapshot := by
  cases found : store.slots.get? key with
  | some slot => rw [reserve_of_get? found]
  | none =>
    rw [reserve_of_get?_eq_none found, publish, publish, touch, touch, Dictionary.insert_insert]

/-- The store after work on the slot of a file in which nothing was published. -/
def abandoned (store : Store) (key : String) : Store :=
  (store.reserve key).release key { current := store.peek? key }

/-- A slot is as it was before, unless there was nothing in it. -/
theorem abandoned_eq_self {store : Store} {key : String}
    (occupied : ∀ slot ∈ store.slots.get? key, slot.current.isSome = true) :
    store.abandoned key = store := by
  unfold abandoned peek?
  cases found : store.slots.get? key with
  | none =>
    rw [reserve_of_get?_eq_none found]
    change { store with slots := (store.slots.insert key {}).erase key } = store
    rw [Dictionary.erase_insert found]
  | some slot =>
    obtain ⟨snapshot, inside⟩ := Option.isSome_iff_exists.mp (occupied slot found)
    rw [reserve_of_get? found, Option.bind_some, inside]
    rfl

theorem peek?_abandoned (store : Store) (key : String) :
    (store.abandoned key).peek? key = store.peek? key := by
  unfold abandoned
  cases found : store.peek? key with
  | none =>
    change (((store.reserve key).slots.erase key).get? key).bind Slot.current = none
    rw [Dictionary.get?_erase_self, Option.bind_none]
  | some snapshot => exact (peek?_reserve store key).trans found

theorem peek?_abandoned_of_ne (store : Store) {key name : String} (different : name ≠ key) :
    (store.abandoned key).peek? name = store.peek? name := by
  have reserved : (store.reserve key).peek? name = store.peek? name := by
    unfold reserve
    split
    · rfl
    · rw [peek?, Dictionary.get?_insert_of_ne _ different, ← peek?]
  unfold abandoned
  cases store.peek? key with
  | none =>
    change (((store.reserve key).slots.erase key).get? name).bind Slot.current = _
    rw [Dictionary.get?_erase_of_ne _ different, ← reserved]
    rfl
  | some snapshot => exact reserved

/-- The work starts from what is in the slot, and the slot is given back afterwards. -/
theorem access_run {σ α : Type} (store : Store) (key : String) (work : StateT Guard (StateM σ) α)
    (state : σ) :
    (store.access key work).run state =
      let done := (work.run { current := store.peek? key }).run state
      ((done.1.1, (store.reserve key).release key done.1.2), done.2) := by
  rw [← peek?_reserve]
  rfl

end Store

/-! ### Calls of the engine -/

/-- Work goes on from the result of its first part, if there is one. -/
theorem Work.run_bind {σ α β : Type} (work : Work σ α) (next : α → Work σ β) (state : σ) :
    (work >>= next).run.run state =
      match work.run.run state with
      | (.error error, state) => (.error error, state)
      | (.ok value, state) => (next value).run.run state := by
  have continued : (work >>= next).run.run state =
      (ExceptT.bindCont next (work.run.run state).1).run (work.run.run state).2 := rfl
  rw [continued]
  cases work.run.run state with
  | mk result state => cases result <;> rfl

/-- A check asks once whether to stop. -/
theorem Host.check_run {σ : Type} (host : Host σ) (file : String) (state : σ) :
    (host.check file).run.run state =
      (if (host.isCancelled.run state).1 then .error (.cancelled file) else .ok (),
        (host.isCancelled.run state).2) := by
  have continued : (host.check file).run.run state =
      ((if (host.isCancelled.run state).1 then throw (.cancelled file) else pure () :
        Work σ Unit).run).run (host.isCancelled.run state).2 := rfl
  rw [continued]
  cases (host.isCancelled.run state).1 <;> rfl

namespace Engine

variable {σ : Type} (engine : Engine) (host : Host σ)

/-- Work that leaves the slot alone does so whether it fails or not. -/
theorem besides_bind {α β : Type} (work : Work σ α) (next : α → Writing σ β) (guard : Store.Guard)
    (state : σ) :
    ((besides work >>= next).run.run guard).run state =
      match work.run.run state with
      | (.error error, state) => ((.error error, guard), state)
      | (.ok value, state) => ((next value).run.run guard).run state := by
  have continued : ((besides work >>= next).run.run guard).run state =
      ((ExceptT.bindCont next (work.run.run state).1).run guard).run (work.run.run state).2 := rfl
  rw [continued]
  cases work.run.run state with
  | mk result state => cases result <;> rfl

/-- The work on a slot ends with the slot as it was found, or with the version in it. -/
theorem bring_run (job : Job) (request : Request) (guard : Store.Guard) (state : σ) :
    ((engine.bring host job request).run.run guard).run state =
      match (engine.build host job request guard.current).run.run state with
      | (.error error, state) => ((.error error, guard), state)
      | (.ok outcome, state) =>
        if outcome.report.mode = .unchanged then ((.ok outcome, guard), state)
        else
          match (host.check job.file).run.run state with
          | (.error error, state) => ((.error error, guard), state)
          | (.ok _, state) =>
            ((.ok outcome, { current := some ⟨outcome.version, job.text⟩, published := true }),
              state) := by
  change ((besides (engine.build host job request guard.current) >>= _).run.run guard).run state = _
  rw [besides_bind]
  cases (engine.build host job request guard.current).run.run state with
  | mk result state =>
    cases result with
    | error error => rfl
    | ok outcome =>
      by_cases known : outcome.report.mode = .unchanged
      · simp only [known, ne_eq, not_true, if_false, if_true]
        rfl
      · simp only [known, ne_eq, not_false_eq_true, if_true, if_false]
        rw [besides_bind]
        cases (host.check job.file).run.run state with
        | mk result state => cases result <;> rfl

/-- All that a call can do: whatever goes wrong, the slot is left as it was found. -/
theorem transact_run (store : Store) (file text : String) (language : Language) (request : Request)
    (state : σ) :
    (engine.transact host store file text language request).run state =
      match engine.registry.get language with
      | .error error => ((.error error, store), state)
      | .ok processor =>
        match (engine.build host ⟨file, text, language, processor⟩ request
          (store.peek? file)).run.run state with
        | (.error error, state) => ((.error error, store.abandoned file), state)
        | (.ok outcome, state) =>
          if outcome.report.mode = .unchanged then ((.ok outcome, store.abandoned file), state)
          else
            match (host.check file).run.run state with
            | (.error error, state) => ((.error error, store.abandoned file), state)
            | (.ok _, state) =>
              ((.ok outcome, store.publish file ⟨outcome.version, text⟩), state) := by
  unfold transact
  cases engine.registry.get language with
  | error error => rfl
  | ok processor =>
    simp only
    rw [Store.access_run, bring_run]
    simp only
    cases (engine.build host ⟨file, text, language, processor⟩ request
      (store.peek? file)).run.run state with
    | mk result state =>
      cases result with
      | error error => rfl
      | ok outcome =>
        by_cases known : outcome.report.mode = .unchanged
        · simp only [if_pos known]
          rfl
        · simp only [if_neg known]
          cases (host.check file).run.run state with
          | mk result state =>
            cases result with
            | error error => rfl
            | ok _ => simp only [Store.release, if_true, Store.publish_reserve]

end Engine

end Chunking
