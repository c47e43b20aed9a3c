/-
The store as a row of files in the order of their last use. A publication puts a
file at the end of the row and drops files from the front of it, as many as are
too many; reading a file moves it to the end. Nothing else is to be known about a
store: the times that it keeps in its slots never show, because later uses have
later times and no two uses share one, so that the times sort the slots into the
row again.
-/

import Chunking.Proofs.Publication
import Mathlib.Data.List.Sort

namespace Chunking

/-! ### The row -/

/-- Files with their snapshots, the one that was not used for the longest time first. -/
structure Recency where
  capacity : Option Nat := none
  row : List (String × Snapshot) := []
  /-- The number of files dropped for want of room. -/
  evictions : Nat := 0

/-- What can be seen of files that are kept. -/
structure Holding where
  keys : List String
  snapshots : String → Option Snapshot
  size : Nat
  stats : Store.Stats

namespace Recency

def others (recency : Recency) (key : String) : List (String × Snapshot) :=
  recency.row.filter (·.1 != key)

/-- Makes a file the one that was used last. -/
def use (recency : Recency) (key : String) (snapshot : Snapshot) : Recency :=
  { recency with row := recency.others key ++ [(key, snapshot)] }

/-- How many of some other files are too many beside one that is published. There is always room for
that one. -/
def excess (capacity : Option Nat) (others : Nat) : Nat :=
  capacity.elim 0 fun capacity => others + 1 - max capacity 1

theorem excess_le (capacity : Option Nat) (others : Nat) : excess capacity others ≤ others := by
  cases capacity with
  | none => exact Nat.zero_le _
  | some capacity =>
    rw [excess, Option.elim_some]
    omega

/-- Makes a snapshot the current one of a file. Of the other files, those used last stay. -/
def publish (recency : Recency) (key : String) (snapshot : Snapshot) : Recency :=
  let others := recency.others key
  let excess := excess recency.capacity others.length
  { recency with
    row := others.drop excess ++ [(key, snapshot)]
    evictions := recency.evictions + excess }

def snapshot (recency : Recency) (key : String) : Option Snapshot × Recency :=
  match recency.row.lookup key with
  | none => (none, recency)
  | some snapshot => (some snapshot, recency.use key snapshot)

def write {α : Type} (recency : Recency) (key : String)
    (decide : Option Snapshot → α × Option Snapshot) : α × Recency :=
  match decide (recency.row.lookup key) with
  | (result, none) => (result, recency)
  | (result, some snapshot) => (result, recency.publish key snapshot)

def invalidate (recency : Recency) (key : String) : Bool × Recency :=
  ((recency.row.lookup key).isSome, { recency with row := recency.others key })

def clear (recency : Recency) : Recency :=
  { recency with row := [] }

def holding (recency : Recency) : Holding :=
  { keys := (recency.row.map Prod.fst).mergeSort
    snapshots := fun key => recency.row.lookup key
    size := recency.row.length
    stats :=
      { files := recency.row.length
        chunks :=
          (recency.row.map fun (_, snapshot) => snapshot.version.chunks.length).foldr (· + ·) 0
        capacity := recency.capacity
        evictions := recency.evictions } }

end Recency

/-! ### Operations -/

/-- What can be asked of a store. A write sees the current snapshot, and publishes one or not. -/
inductive Operation (α : Type) where
  | insert (key : String) (snapshot : Snapshot)
  | write (key : String) (decide : Option Snapshot → α × Option Snapshot)
  | get (key : String)
  | snapshot (key : String)
  | invalidate (key : String)
  | clear

/-- What comes back. -/
inductive Operation.Result (α : Type) where
  | done
  | written (result : α)
  | version (version : Option Version)
  | snapshot (snapshot : Option Snapshot)
  | removed (found : Bool)

namespace Operation

variable {α σ : Type}

def onStore (store : Store) : Operation α → Result α × Store
  | .insert key published => (.done, (store.write key fun _ => ((), some published)).2)
  | .write key decide => (store.write key decide).map .written id
  | .get key => (store.snapshot key).map (fun found => .version (found.map Snapshot.version)) id
  | .snapshot key => (store.snapshot key).map .snapshot id
  | .invalidate key => (store.invalidate key).map .removed id
  | .clear => (.done, store.clear)

def onRecency (recency : Recency) : Operation α → Result α × Recency
  | .insert key published => (.done, recency.publish key published)
  | .write key decide => (recency.write key decide).map .written id
  | .get key =>
    (recency.snapshot key).map (fun found => .version (found.map Snapshot.version)) id
  | .snapshot key => (recency.snapshot key).map .snapshot id
  | .invalidate key => (recency.invalidate key).map .removed id
  | .clear => (.done, recency.clear)

/-- The results of operations one after another, each with what can be seen after it. -/
def trace (act : σ → Operation α → Result α × σ) (holding : σ → Holding) :
    σ → List (Operation α) → List (Result α × Holding)
  | _, [] => []
  | state, operation :: rest =>
    let (result, state) := act state operation
    (result, holding state) :: trace act holding state rest

end Operation

namespace Store

/-- What can be seen of a store without using it. -/
def holding (store : Store) : Holding :=
  { keys := store.keys
    snapshots := store.peek?
    size := store.size
    stats := store.stats }

/-! ### Times of use -/

/-- A file and its snapshot, used at a time. -/
abbrev Use := (String × Snapshot) × Nat

/-- The slot of a file that was used at a time. -/
def slotOf (use : Use) : String × Slot :=
  (use.1.1, ⟨some use.1.2, use.2⟩)

/-- The slots are those of some uses, given from the earliest to the latest. -/
structure Timed (store : Store) (uses : List Use) : Prop where
  slots : (uses.map slotOf).Perm store.slots.entries
  order : uses.Pairwise fun earlier later => earlier.2 < later.2
  past : ∀ use ∈ uses, use.2 ≤ store.clock

theorem timed_nil (store : Store) : { store with slots := {} }.Timed [] :=
  ⟨List.Perm.refl _, List.Pairwise.nil, fun _ member => absurd member List.not_mem_nil⟩

theorem leastUsedFirst_trans (first second third : String × Slot)
    (before : leastUsedFirst first second = true) (after : leastUsedFirst second third = true) :
    leastUsedFirst first third = true := by
  simp only [leastUsedFirst, Bool.or_eq_true, Bool.and_eq_true, decide_eq_true_eq, beq_iff_eq] at *
  rcases before with before | ⟨same, before⟩
  · rcases after with after | ⟨same, _⟩
    · exact Or.inl (Nat.lt_trans before after)
    · exact Or.inl (same ▸ before)
  · rcases after with after | ⟨other, after⟩
    · exact Or.inl (same ▸ after)
    · exact Or.inr ⟨same.trans other, String.le_trans before after⟩

theorem leastUsedFirst_total (left right : String × Slot) :
    (leastUsedFirst left right || leastUsedFirst right left) = true := by
  simp only [leastUsedFirst, Bool.or_eq_true, Bool.and_eq_true, decide_eq_true_eq, beq_iff_eq]
  rcases Nat.lt_trichotomy left.2.lastUsed right.2.lastUsed with below | same | above
  · exact Or.inl (Or.inl below)
  · rcases String.le_total left.1 right.1 with before | after
    · exact Or.inl (Or.inr ⟨same, before⟩)
    · exact Or.inr (Or.inr ⟨same.symm, after⟩)
  · exact Or.inr (Or.inl above)

/-- Sorting brings slots of uses into the order of the uses. -/
theorem mergeSort_slots {uses : List Use} {entries : List (String × Slot)}
    (slots : (uses.map slotOf).Perm entries)
    (order : uses.Pairwise fun earlier later => earlier.2 < later.2) :
    entries.mergeSort leastUsedFirst = uses.map slotOf := by
  have inOrder : (uses.map slotOf).Pairwise fun left right => left.2.lastUsed < right.2.lastUsed :=
    List.pairwise_map.mpr order
  have sorted := List.pairwise_mergeSort leastUsedFirst_trans leastUsedFirst_total entries
  have perm := (List.mergeSort_perm entries leastUsedFirst).trans slots.symm
  have apart : (entries.mergeSort leastUsedFirst).Pairwise
      fun left right => left.2.lastUsed ≠ right.2.lastUsed :=
    perm.symm.pairwise (inOrder.imp Nat.ne_of_lt) fun different => different.symm
  have strict : (entries.mergeSort leastUsedFirst).Pairwise
      fun left right => left.2.lastUsed < right.2.lastUsed := by
    refine sorted.imp₂ (fun left right before different => ?_) apart
    simp only [leastUsedFirst, Bool.or_eq_true, Bool.and_eq_true, decide_eq_true_eq,
      beq_iff_eq] at before
    rcases before with before | ⟨same, _⟩
    · exact before
    · exact absurd same different
  refine List.Perm.eq_of_pairwise (fun left right _ _ below above => ?_) strict inOrder perm
  exact absurd below (Nat.lt_asymm above)

namespace Timed

variable {store : Store} {uses : List Use}

theorem distinct (timed : store.Timed uses) : (uses.map (·.1.1)).Nodup := by
  have names := (timed.slots.map Prod.fst).nodup_iff.mpr (Dictionary.nodup_keys store.slots)
  rwa [List.map_map] at names

/-- Taking a file out leaves the times of the others. -/
theorem erase (timed : store.Timed uses) (key : String) :
    { store with slots := store.slots.erase key }.Timed (uses.filter (·.1.1 != key)) := by
  refine ⟨?_, timed.order.sublist List.filter_sublist,
    fun use member => timed.past use (List.mem_of_mem_filter member)⟩
  have remaining := timed.slots.filter (·.1 != key)
  rwa [List.filter_map] at remaining

/-- A use is later than all before it. -/
theorem touch (timed : store.Timed uses) (key : String) (snapshot : Snapshot) :
    (store.touch key snapshot).Timed
      (uses.filter (·.1.1 != key) ++ [((key, snapshot), store.clock + 1)]) := by
  have others := timed.erase key
  refine ⟨?_, List.pairwise_append.mpr ⟨others.order, List.pairwise_singleton _ _, ?_⟩, ?_⟩
  · rw [List.map_append, List.map_singleton]
    refine List.perm_append_comm.trans ((others.slots.cons _).trans ?_)
    exact (Dictionary.entries_insert_perm store.slots key _).symm
  · intro use member last latest
    rw [List.mem_singleton.mp latest]
    exact Nat.lt_succ_of_le (others.past use member)
  · intro use member
    rcases List.mem_append.mp member with earlier | latest
    · exact Nat.le_succ_of_le (others.past use earlier)
    · rw [List.mem_singleton.mp latest]
      exact Nat.le_refl _

end Timed

theorem entries_foldl_erase (victims : List String) (slots : Dictionary Slot) :
    (victims.foldl Dictionary.erase slots).entries =
      slots.entries.filter fun entry => !victims.contains entry.1 := by
  induction victims generalizing slots with
  | nil => simp
  | cons victim rest inductionHypothesis =>
    rw [List.foldl_cons, inductionHypothesis, Dictionary.erase, Dictionary.filter,
      List.filter_filter]
    refine List.filter_congr fun entry _ => ?_
    rw [List.contains_cons, Bool.not_or, Bool.and_comm]
    rfl

section Eviction

variable {store : Store} {others : List Use} {last : Use}

theorem Timed.filter_last (timed : store.Timed (others ++ [last])) :
    (others ++ [last]).filter (·.1.1 != last.1.1) = others := by
  have distinct := timed.distinct
  rw [List.map_append, List.nodup_append] at distinct
  have apart : ∀ use ∈ others, (use.1.1 != last.1.1) = true := fun use member =>
    bne_iff_ne.mpr (distinct.2.2 _ (List.mem_map_of_mem member) _ List.mem_cons_self)
  rw [List.filter_append, List.filter_eq_self.mpr apart, List.filter_cons_of_neg (by simp),
    List.filter_nil, List.append_nil]

/-- Files are dropped in the order of their last use. -/
theorem Timed.dropped_eq (timed : store.Timed (others ++ [last])) :
    store.dropped last.1.1 =
      (others.take (Recency.excess store.capacity others.length)).map (·.1.1) := by
  unfold dropped Recency.excess
  cases store.capacity with
  | none => rfl
  | some capacity =>
    have erased := timed.erase last.1.1
    rw [timed.filter_last] at erased
    have sorted : (store.slots.entries.filter (·.1 != last.1.1)).mergeSort leastUsedFirst =
        others.map slotOf := mergeSort_slots erased.slots erased.order
    have size : store.size = others.length + 1 := by
      rw [Store.size, Dictionary.size, ← timed.slots.length_eq, List.length_map, List.length_append,
        List.length_singleton]
    have same : others.take (others.length + 1 - capacity) =
        others.take (others.length + 1 - max capacity 1) := by
      rw [List.take_eq_take_iff]
      omega
    rw [Option.elim_some, Option.elim_some, victims, sorted, size, ← List.map_take, List.map_map,
      same]
    rfl

/-- Making room leaves the files that were used last. -/
theorem Timed.evict (timed : store.Timed (others ++ [last])) :
    (store.evict last.1.1).Timed
      (others.drop (Recency.excess store.capacity others.length) ++ [last]) := by
  have distinct := timed.distinct
  set count := Recency.excess store.capacity others.length with counted
  have kept : (others ++ [last]).filter
      (fun use => !((others.take count).map (·.1.1)).contains use.1.1) =
        others.drop count ++ [last] := by
    have parts : others ++ [last] = others.take count ++ (others.drop count ++ [last]) := by
      rw [← List.append_assoc, List.take_append_drop]
    rw [parts, List.map_append, List.nodup_append] at distinct
    rw [parts, List.filter_append, List.filter_eq_nil_iff.mpr, List.filter_eq_self.mpr,
      List.nil_append]
    · intro use member
      rw [Bool.not_eq_true', List.contains_eq_mem, decide_eq_false_iff_not]
      exact fun listed => distinct.2.2 _ listed _ (List.mem_map_of_mem member) rfl
    · intro use member
      rw [Bool.not_eq_true', List.contains_eq_mem, decide_eq_false_iff_not, not_not]
      exact List.mem_map_of_mem member
  rw [evict_eq]
  refine ⟨?_, ?_, fun use member => timed.past use ?_⟩
  · rw [entries_foldl_erase, timed.dropped_eq, ← kept]
    have remaining := timed.slots.filter
      fun entry => !((others.take count).map (·.1.1)).contains entry.1
    rwa [List.filter_map] at remaining
  · rw [← kept]
    exact timed.order.sublist List.filter_sublist
  · rw [← kept] at member
    exact List.mem_of_mem_filter member

end Eviction

/-! ### Stores and rows -/

/-- A store that holds the files of a row, with times of use in the order of the row. -/
structure Mirrors (store : Store) (recency : Recency) : Prop where
  capacity : store.capacity = recency.capacity
  evictions : store.evictions = recency.evictions
  timed : ∃ uses, store.Timed uses ∧ uses.map Prod.fst = recency.row

theorem mirrors_empty (capacity : Option Nat) : (empty capacity).Mirrors { capacity } :=
  ⟨rfl, rfl, [], timed_nil (empty capacity), rfl⟩

namespace Mirrors

variable {store : Store} {recency : Recency}

theorem filled (mirrors : store.Mirrors recency) : store.Filled := by
  obtain ⟨uses, timed, _⟩ := mirrors.timed
  intro key slot found
  have member := timed.slots.mem_iff.mpr (Dictionary.get?_eq_some_iff.mp found)
  obtain ⟨use, _, same⟩ := List.mem_map.mp member
  rw [← (Prod.mk.inj same).2]
  rfl

theorem peek?_eq (mirrors : store.Mirrors recency) (key : String) :
    store.peek? key = recency.row.lookup key := by
  obtain ⟨uses, timed, row⟩ := mirrors.timed
  have distinct : (recency.row.map Prod.fst).Nodup := by
    rw [← row, List.map_map]
    exact timed.distinct
  refine Option.ext fun snapshot => ?_
  rw [Dictionary.lookup_eq_some_iff distinct, ← row, peek?, Option.bind_eq_some_iff]
  simp only [Dictionary.get?_eq_some_iff, ← timed.slots.mem_iff, List.mem_map]
  constructor
  · rintro ⟨slot, ⟨use, member, same⟩, current⟩
    obtain ⟨rfl, rfl⟩ := Prod.mk.inj same
    cases current
    exact ⟨use, member, rfl⟩
  · rintro ⟨⟨_, time⟩, member, rfl⟩
    exact ⟨⟨some snapshot, time⟩, ⟨_, member, rfl⟩, rfl⟩

theorem mem_keys (mirrors : store.Mirrors recency) (key : String) :
    key ∈ store.keys ↔ (store.peek? key).isSome = true := by
  rw [keys, Dictionary.mem_keys, peek?]
  cases found : store.slots.get? key with
  | none => rfl
  | some slot =>
    rw [Option.bind_some, mirrors.filled key slot found]
    rfl

theorem size_eq (mirrors : store.Mirrors recency) : store.size = recency.row.length := by
  obtain ⟨uses, timed, row⟩ := mirrors.timed
  rw [Store.size, Dictionary.size, ← timed.slots.length_eq, List.length_map, ← row, List.length_map]

theorem keys_eq (mirrors : store.Mirrors recency) :
    store.keys = (recency.row.map Prod.fst).mergeSort := by
  obtain ⟨uses, timed, row⟩ := mirrors.timed
  have names : (recency.row.map Prod.fst).Perm store.keys := by
    have perm := timed.slots.map Prod.fst
    rw [List.map_map] at perm
    rw [← row, List.map_map]
    exact perm
  have trans : ∀ left middle right : String, decide (left ≤ middle) = true →
      decide (middle ≤ right) = true → decide (left ≤ right) = true :=
    fun _ _ _ before after =>
      decide_eq_true (String.le_trans (of_decide_eq_true before) (of_decide_eq_true after))
  have sorted : (recency.row.map Prod.fst).mergeSort.Pairwise
      fun left right => decide (left ≤ right) = true :=
    List.pairwise_mergeSort trans (fun left right => by simpa using String.le_total left right) _
  refine List.Perm.eq_of_pairwise (fun left right _ _ before after => ?_)
    (store.slots.ordered.imp fun below => ?_) sorted
    (names.symm.trans (List.mergeSort_perm _ _).symm)
  · exact String.le_antisymm (of_decide_eq_true before) (of_decide_eq_true after)
  · exact decide_eq_true (String.not_lt.mp (String.lt_asymm below))

theorem chunks_eq (mirrors : store.Mirrors recency) :
    store.stats.chunks =
      (recency.row.map fun (_, snapshot) => snapshot.version.chunks.length).foldr (· + ·) 0 := by
  obtain ⟨uses, timed, row⟩ := mirrors.timed
  have counts := (timed.slots.map fun entry : String × Slot =>
    entry.2.current.elim 0 fun snapshot => snapshot.version.chunks.length).foldr_eq'
      (fun left _ right _ sum => Nat.add_left_comm right left sum) 0
  rw [List.map_map] at counts
  rw [← row, List.map_map]
  exact counts.symm

/-- What can be seen of a store is what can be seen of its row. -/
theorem holding_eq (mirrors : store.Mirrors recency) : store.holding = recency.holding := by
  have stats : store.stats = recency.holding.stats := by
    have files := mirrors.size_eq
    have chunks := mirrors.chunks_eq
    rw [Store.stats] at chunks ⊢
    rw [Recency.holding]
    simp only [files, mirrors.capacity, mirrors.evictions] at chunks ⊢
    rw [chunks]
  rw [Store.holding, stats, mirrors.keys_eq, mirrors.size_eq, funext mirrors.peek?_eq]
  rfl

theorem touch (mirrors : store.Mirrors recency) (key : String) (snapshot : Snapshot) :
    (store.touch key snapshot).Mirrors (recency.use key snapshot) := by
  obtain ⟨uses, timed, row⟩ := mirrors.timed
  refine ⟨mirrors.capacity, mirrors.evictions, _, timed.touch key snapshot, ?_⟩
  rw [List.map_append, List.map_singleton, Recency.use, Recency.others, ← row, List.filter_map]
  rfl

theorem publish (mirrors : store.Mirrors recency) (key : String) (snapshot : Snapshot) :
    (store.publish key snapshot).Mirrors (recency.publish key snapshot) := by
  obtain ⟨uses, timed, row⟩ := mirrors.timed
  have touched := timed.touch key snapshot
  have others : (uses.filter (·.1.1 != key)).map Prod.fst = recency.others key := by
    rw [Recency.others, ← row, List.filter_map]
    rfl
  have count : (uses.filter (·.1.1 != key)).length = (recency.others key).length := by
    rw [← others, List.length_map]
  have dropped : (store.touch key snapshot).dropped key = _ := touched.dropped_eq
  have bound : (store.touch key snapshot).capacity = recency.capacity := mirrors.capacity
  rw [count, bound] at dropped
  refine ⟨?_, ?_, _, touched.evict, ?_⟩
  · rw [Store.publish, evict_eq]
    exact mirrors.capacity
  · rw [Store.publish, evict_eq, dropped]
    simp only [List.length_map, List.length_take, count]
    rw [Nat.min_eq_left (Recency.excess_le _ _)]
    exact congrArg (· + _) mirrors.evictions
  · rw [List.map_append, List.map_drop, others, count, bound]
    rfl

theorem erase (mirrors : store.Mirrors recency) (key : String) :
    { store with slots := store.slots.erase key }.Mirrors
      { recency with row := recency.others key } := by
  obtain ⟨uses, timed, row⟩ := mirrors.timed
  refine ⟨mirrors.capacity, mirrors.evictions, _, timed.erase key, ?_⟩
  rw [Recency.others, ← row, List.filter_map]
  rfl

end Mirrors

/-- A write publishes what is decided, or leaves the slot as it was found. -/
theorem write_eq {α : Type} (store : Store) (key : String)
    (decide : Option Snapshot → α × Option Snapshot) :
    store.write key decide =
      match decide (store.peek? key) with
      | (result, none) => (result, store.abandoned key)
      | (result, some snapshot) => (result, store.publish key snapshot) := by
  have work (done : α × Option Snapshot) (guard : Guard) :
      (do done.2.forM Guard.publish; return done.1 : StateM Guard α).run guard =
        (done.1, done.2.elim guard fun snapshot => ⟨some snapshot, true⟩) := by
    cases done with
    | mk result published => cases published <;> rfl
  have run : store.write key decide =
      (((do (decide ((store.reserve key).peek? key)).2.forM Guard.publish
            return (decide ((store.reserve key).peek? key)).1 : StateM Guard α).run
          { current := (store.reserve key).peek? key }).map id
        ((store.reserve key).release key)) := rfl
  rw [run, work, peek?_reserve]
  cases decide (store.peek? key) with
  | mk result published =>
    cases published with
    | none => rfl
    | some snapshot => exact congrArg (result, ·) (publish_reserve store key snapshot)

end Store

/-! ### Histories -/

namespace Operation

variable {α : Type} {store : Store} {recency : Recency}

/-- An operation on a store and on its row gives the same result, and leaves a store and its row. -/
theorem act_mirrors (mirrors : store.Mirrors recency) (operation : Operation α) :
    (onStore store operation).1 = (onRecency recency operation).1 ∧
      (onStore store operation).2.Mirrors (onRecency recency operation).2 := by
  have untouched (key : String) : store.abandoned key = store :=
    Store.abandoned_eq_self (mirrors.filled key)
  have used (key : String) : (store.snapshot key).1 = (recency.snapshot key).1 ∧
      (store.snapshot key).2.Mirrors (recency.snapshot key).2 := by
    unfold Store.snapshot Recency.snapshot
    rw [mirrors.peek?_eq]
    cases recency.row.lookup key with
    | none => exact ⟨rfl, mirrors⟩
    | some found => exact ⟨rfl, mirrors.touch key found⟩
  cases operation with
  | insert key published =>
    simp only [onStore, onRecency, Store.write_eq]
    exact ⟨trivial, mirrors.publish key published⟩
  | write key decide =>
    simp only [onStore, onRecency, Store.write_eq, Recency.write, mirrors.peek?_eq, untouched]
    cases decide (recency.row.lookup key) with
    | mk result published =>
      cases published with
      | none => exact ⟨rfl, mirrors⟩
      | some published => exact ⟨rfl, mirrors.publish key published⟩
  | get key =>
    refine ⟨?_, (used key).2⟩
    simp only [onStore, onRecency, Prod.map_fst, (used key).1]
  | snapshot key =>
    refine ⟨?_, (used key).2⟩
    simp only [onStore, onRecency, Prod.map_fst, (used key).1]
  | invalidate key =>
    refine ⟨?_, mirrors.erase key⟩
    simp only [onStore, onRecency, Store.invalidate, Recency.invalidate, Prod.map_fst,
      mirrors.peek?_eq]
  | clear =>
    exact ⟨rfl, mirrors.capacity, mirrors.evictions, [], Store.timed_nil _, rfl⟩

theorem trace_mirrors (mirrors : store.Mirrors recency) (operations : List (Operation α)) :
    trace onStore Store.holding store operations =
        trace onRecency Recency.holding recency operations ∧
      ∀ seen ∈ trace onStore Store.holding store operations, ∀ key,
        key ∈ seen.2.keys ↔ (seen.2.snapshots key).isSome = true := by
  induction operations generalizing store recency with
  | nil => exact ⟨rfl, fun _ member => absurd member List.not_mem_nil⟩
  | cons operation rest inductionHypothesis =>
    obtain ⟨result, after⟩ := act_mirrors mirrors operation
    obtain ⟨later, held⟩ := inductionHypothesis after
    refine ⟨?_, List.forall_mem_cons.mpr ⟨after.mem_keys, held⟩⟩
    rw [trace, trace]
    simp only
    rw [result, after.holding_eq, later]

/-- Operations on a store one after another have the results, and leave to be seen what they do, of
operations on files in the order of their last use; and between them every file that is kept has a
snapshot. -/
theorem trace_onStore (capacity : Option Nat) (operations : List (Operation α)) :
    trace onStore Store.holding (Store.empty capacity) operations =
        trace onRecency Recency.holding { capacity } operations ∧
      ∀ seen ∈ trace onStore Store.holding (Store.empty capacity) operations, ∀ key,
        key ∈ seen.2.keys ↔ (seen.2.snapshots key).isSome = true :=
  trace_mirrors (Store.mirrors_empty capacity) operations

end Operation

end Chunking
