/-
Stores that are filled from an archive. The versions of the archive are entered one
after another, each one as if it had just been published, so when there are more of
them than there is room for, the first ones are gone before the work begins. If there
is room for all of them, all of them are there.

An archive is orderly if it keeps every version under the name of the file of which
it is one. Then what the store knows of a file is what the archive keeps for it.
-/

import Chunking.Index
import Chunking.Proofs.Persistence
import Chunking.Proofs.Recency

namespace Chunking

/-! ### Stores with room -/

namespace Store

theorem peek?_touch_self (store : Store) (key : String) (snapshot : Snapshot) :
    (store.touch key snapshot).peek? key = some snapshot := by
  rw [peek?, touch, Dictionary.get?_insert_self]
  rfl

theorem peek?_touch_of_ne (store : Store) {key name : String} (different : name ≠ key)
    (snapshot : Snapshot) : (store.touch key snapshot).peek? name = store.peek? name := by
  rw [peek?, touch, Dictionary.get?_insert_of_ne _ different, ← peek?]

/-- Where there is room for a file, nothing has to go for it. -/
theorem publish_eq_touch {store : Store} {key : String}
    (room : ∀ capacity ∈ store.capacity, (store.slots.erase key).size < capacity)
    (snapshot : Snapshot) : store.publish key snapshot = store.touch key snapshot := by
  have none : (store.touch key snapshot).dropped key = [] := by
    refine List.eq_nil_of_length_eq_zero ?_
    rw [(store.makesRoom_dropped key snapshot).count]
    cases bounded : store.capacity with
    | none => rfl
    | some capacity =>
      have below := room capacity bounded
      rw [Option.elim_some]
      omega
  rw [publish, evict_eq, none]
  rfl

theorem mem_keys_of_peek? {store : Store} {key : String} (known : (store.peek? key).isSome = true) :
    key ∈ store.slots.keys := by
  rw [Dictionary.mem_keys]
  obtain ⟨snapshot, found⟩ := Option.isSome_iff_exists.mp known
  obtain ⟨slot, there, _⟩ := Option.bind_eq_some_iff.mp found
  rw [there]
  rfl

/-- A file that is already there takes no more room. -/
theorem size_touch {store : Store} {key : String} (known : (store.peek? key).isSome = true)
    (snapshot : Snapshot) : (store.touch key snapshot).size = store.size := by
  have removed := Dictionary.size_erase_of_mem (mem_keys_of_peek? known)
  have inserted := Dictionary.size_insert store.slots key ⟨some snapshot, store.clock + 1⟩
  exact inserted.trans removed

/-- Reading a file changes nothing but the time of its last use. -/
theorem snapshot_spec (store : Store) (key : String) :
    (store.snapshot key).1 = store.peek? key ∧
      (∀ name, (store.snapshot key).2.peek? name = store.peek? name) ∧
      (store.snapshot key).2.capacity = store.capacity ∧
      (store.snapshot key).2.size = store.size := by
  unfold snapshot
  cases known : store.peek? key with
  | none => exact ⟨rfl, fun _ => rfl, rfl, rfl⟩
  | some found =>
    refine ⟨rfl, fun name => ?_, rfl, size_touch (by rw [known]; rfl) found⟩
    by_cases same : name = key
    · rw [same, known]
      exact store.peek?_touch_self key found
    · exact store.peek?_touch_of_ne same found

theorem capacity_abandoned (store : Store) (key : String) :
    (store.abandoned key).capacity = store.capacity := by
  have reserved : (store.reserve key).capacity = store.capacity := by
    unfold reserve
    split <;> rfl
  unfold abandoned
  cases store.peek? key with
  | none => exact reserved
  | some snapshot => exact reserved

/-- All of the given files are there and none is too many, if their number is limited at all. -/
def Roomy (store : Store) (files : List String) : Prop :=
  ∀ capacity ∈ store.capacity,
    store.size ≤ capacity ∧ ∀ file ∈ files, (store.peek? file).isSome = true

namespace Roomy

variable {store : Store} {files : List String} {file : String}

theorem publish (roomy : store.Roomy files) (member : file ∈ files) (snapshot : Snapshot) :
    store.publish file snapshot = store.touch file snapshot := by
  refine publish_eq_touch (fun capacity bounded => ?_) snapshot
  obtain ⟨small, known⟩ := roomy capacity bounded
  have removed := Dictionary.size_erase_of_mem (mem_keys_of_peek? (known file member))
  have size : store.size = store.slots.size := rfl
  omega

theorem touch (roomy : store.Roomy files) (member : file ∈ files) (snapshot : Snapshot) :
    (store.touch file snapshot).Roomy files := by
  intro capacity bounded
  obtain ⟨small, known⟩ := roomy capacity bounded
  refine ⟨(size_touch (known file member) snapshot).trans_le small, fun name listed => ?_⟩
  by_cases same : name = file
  · rw [same, peek?_touch_self]
    rfl
  · rw [peek?_touch_of_ne store same]
    exact known name listed

theorem abandoned (roomy : store.Roomy files) (member : file ∈ files) :
    (store.abandoned file).Roomy files := by
  intro capacity bounded
  rw [capacity_abandoned] at bounded
  have known := (roomy capacity bounded).2 file member
  have occupied : ∀ slot ∈ store.slots.get? file, slot.current.isSome = true := by
    intro slot there
    rw [peek?, there] at known
    exact known
  rw [abandoned_eq_self occupied]
  exact roomy capacity bounded

end Roomy

end Store

/-! ### Reading archives -/

theorem mapM_eq_ok_iff {α β ε : Type} {read : α → Except ε β} {items : List α} {values : List β} :
    items.mapM read = .ok values ↔ items.map read = values.map .ok := by
  induction items generalizing values with
  | nil =>
    rw [List.mapM_nil, List.map_nil, @eq_comm _ [], List.map_eq_nil_iff]
    exact ⟨fun same => (Except.ok.inj same).symm, fun same => same ▸ rfl⟩
  | cons item rest inductionHypothesis =>
    rw [List.mapM_cons, List.map_cons]
    constructor
    · intro done
      cases first : read item with
      | error failure =>
        rw [first] at done
        cases done
      | ok value =>
        cases later : rest.mapM read with
        | error failure =>
          rw [first, later] at done
          cases done
        | ok others =>
          rw [first, later] at done
          cases done
          exact congrArg _ (inductionHypothesis.mp later)
    · intro same
      cases values with
      | nil => cases same
      | cons value others =>
        obtain ⟨first, later⟩ := List.cons.inj same
        rw [first, inductionHypothesis.mpr later]
        rfl

theorem exists_mapM_eq_ok {α β ε : Type} {read : α → Except ε β} {items : List α}
    (reads : ∀ item ∈ items, ∃ value, read item = .ok value) :
    ∃ values, items.mapM read = .ok values := by
  induction items with
  | nil => exact ⟨[], rfl⟩
  | cons item rest inductionHypothesis =>
    obtain ⟨value, first⟩ := reads item List.mem_cons_self
    obtain ⟨values, later⟩ := inductionHypothesis fun other member =>
      reads other (List.mem_cons_of_mem _ member)
    refine ⟨value :: values, ?_⟩
    rw [List.mapM_cons, first, later]
    rfl

namespace Archive

theorem load?_eq_some_iff {archive : Archive} {file : String} {snapshot : Snapshot} :
    archive.load? file = .ok (some snapshot) ↔
      ∃ archived, (file, archived) ∈ archive.files.entries ∧ archived.snapshot = .ok snapshot := by
  simp only [← Dictionary.get?_eq_some_iff]
  unfold load?
  constructor
  · intro given
    split at given
    · cases given
    next archived found =>
      refine ⟨archived, found, ?_⟩
      cases read : archived.snapshot with
      | error failure =>
        rw [read] at given
        cases given
      | ok kept =>
        rw [read] at given
        cases given
        rfl
  · rintro ⟨archived, found, read⟩
    simp only [found, read]
    rfl

theorem mem_list_of_load? {archive : Archive} {file : String} {snapshot : Snapshot}
    (kept : archive.load? file = .ok (some snapshot)) : file ∈ archive.list := by
  obtain ⟨archived, member, _⟩ := load?_eq_some_iff.mp kept
  exact List.mem_map_of_mem member

theorem exists_loadAll {archive : Archive}
    (reads : ∀ file ∈ archive.list, ∃ snapshot, archive.load? file = .ok (some snapshot)) :
    ∃ snapshots, archive.loadAll = .ok snapshots := by
  refine exists_mapM_eq_ok ?_
  rintro ⟨file, archived⟩ member
  obtain ⟨snapshot, kept⟩ := reads file (List.mem_map_of_mem (f := Prod.fst) member)
  obtain ⟨other, listed, read⟩ := load?_eq_some_iff.mp kept
  cases List.inj_on_of_nodup_map (Dictionary.nodup_keys archive.files) listed member rfl
  exact ⟨snapshot, read⟩

/-- Every version is kept under the name of its file. -/
def Orderly (archive : Archive) : Prop :=
  ∀ file snapshot, archive.load? file = .ok (some snapshot) → snapshot.version.file = file

section loadAll

variable {archive : Archive} {snapshots : List Snapshot}

theorem snapshot_eq (loaded : archive.loadAll = .ok snapshots) :
    archive.files.entries.map (fun entry => entry.2.snapshot) = snapshots.map Except.ok :=
  mapM_eq_ok_iff.mp loaded

theorem mem_loadAll (loaded : archive.loadAll = .ok snapshots) {snapshot : Snapshot} :
    snapshot ∈ snapshots ↔ ∃ file, archive.load? file = .ok (some snapshot) := by
  have listed : (Except.ok snapshot : Except Failure Snapshot) ∈ snapshots.map Except.ok ↔
      snapshot ∈ snapshots :=
    List.mem_map_of_injective fun _ _ same => Except.ok.inj same
  rw [← listed, ← snapshot_eq loaded, List.mem_map]
  simp only [load?_eq_some_iff, Prod.exists]

theorem load?_of_mem (loaded : archive.loadAll = .ok snapshots) {file : String}
    {archived : Archived} (member : (file, archived) ∈ archive.files.entries) :
    ∃ snapshot, archived.snapshot = .ok snapshot ∧ archive.load? file = .ok (some snapshot) := by
  have read : archived.snapshot ∈ snapshots.map Except.ok := by
    rw [← snapshot_eq loaded, List.mem_map]
    exact ⟨(file, archived), member, rfl⟩
  obtain ⟨snapshot, _, same⟩ := List.mem_map.mp read
  exact ⟨snapshot, same.symm, load?_eq_some_iff.mpr ⟨archived, member, same.symm⟩⟩

/-- The versions of an orderly archive come in the order of its files. -/
theorem Orderly.names (orderly : archive.Orderly) (loaded : archive.loadAll = .ok snapshots) :
    snapshots.map (·.version.file) = archive.list := by
  refine List.map_injective_iff.mpr (Option.some_injective String) ?_
  have names := congrArg (List.map fun result => result.toOption.map (·.version.file))
    (snapshot_eq loaded)
  rw [List.map_map, List.map_map] at names
  rw [List.map_map, list, Dictionary.keys, List.map_map]
  refine names.symm.trans (List.map_congr_left fun entry member => ?_)
  obtain ⟨snapshot, read, kept⟩ := load?_of_mem loaded member
  change entry.2.snapshot.toOption.map (·.version.file) = some entry.1
  rw [read, ← orderly entry.1 snapshot kept]
  rfl

end loadAll

end Archive

namespace Index

open Engine

/-! ### The store at the start -/

theorem hydrateOne_cases (store : Store) (snapshot : Snapshot) :
    hydrateOne store snapshot = store ∨
      snapshot.Belongs snapshot.version.file ∧
        hydrateOne store snapshot = store.publish snapshot.version.file snapshot := by
  unfold hydrateOne
  cases taken : hydrate store snapshot.version snapshot.text with
  | error error => exact Or.inl rfl
  | ok next =>
    unfold hydrate at taken
    split at taken
    · cases taken
    next sameDigest =>
      cases passed : snapshot.version.validate (some snapshot.text) with
      | error error =>
        rw [passed] at taken
        cases taken
      | ok _ =>
        rw [passed] at taken
        cases taken
        exact Or.inr ⟨⟨rfl, not_not.mp sameDigest, Version.validate_eq_ok.mp passed⟩, rfl⟩

theorem hydrateOne_belongs (store : Store) {file : String} {snapshot : Snapshot}
    (belongs : snapshot.Belongs file) :
    hydrateOne store snapshot = store.publish file snapshot := by
  rw [hydrateOne, hydrate_belongs store belongs]

theorem all_hydrated {good : String → Snapshot → Prop} {snapshots : List Snapshot} {store : Store}
    (start : store.All good)
    (each : ∀ snapshot ∈ snapshots, snapshot.Belongs snapshot.version.file →
      good snapshot.version.file snapshot) :
    (snapshots.foldl hydrateOne store).All good := by
  induction snapshots generalizing store with
  | nil => exact start
  | cons snapshot rest inductionHypothesis =>
    refine inductionHypothesis ?_ fun other member => each other (List.mem_cons_of_mem _ member)
    rcases hydrateOne_cases store snapshot with rejected | ⟨belongs, taken⟩
    · rw [rejected]
      exact start
    · rw [taken]
      exact start.publish (each snapshot List.mem_cons_self belongs)

/-- A store is never fuller than its capacity allows, counting one file for none. -/
theorem mirrors_hydrated (snapshots : List Snapshot) {store : Store} {recency : Recency}
    (mirrors : store.Mirrors recency)
    (bounded : ∀ capacity ∈ recency.capacity, recency.row.length ≤ max capacity 1) :
    ∃ after : Recency, (snapshots.foldl hydrateOne store).Mirrors after ∧
      after.capacity = recency.capacity ∧
      ∀ capacity ∈ recency.capacity, after.row.length ≤ max capacity 1 := by
  induction snapshots generalizing store recency with
  | nil => exact ⟨recency, mirrors, rfl, bounded⟩
  | cons snapshot rest inductionHypothesis =>
    rw [List.foldl_cons]
    rcases hydrateOne_cases store snapshot with rejected | ⟨_, taken⟩
    · rw [rejected]
      exact inductionHypothesis mirrors bounded
    · rw [taken]
      have next := mirrors.publish snapshot.version.file snapshot
      have stillBounded : ∀ capacity ∈ recency.capacity,
          (recency.publish snapshot.version.file snapshot).row.length ≤ max capacity 1 := by
        intro capacity limited
        unfold Recency.publish Recency.excess
        simp only [Option.mem_def.mp limited, Option.elim_some, List.length_append,
          List.length_drop, List.length_singleton]
        omega
      obtain ⟨after, mirrored, kept, fits⟩ := inductionHypothesis next stillBounded
      exact ⟨after, mirrored, kept, fits⟩

/-- Where there is room for all snapshots, all of them are in the store. -/
theorem mirrors_hydrated_all (snapshots : List Snapshot) {store : Store} {recency : Recency}
    (mirrors : store.Mirrors recency)
    (belongs : ∀ snapshot ∈ snapshots, snapshot.Belongs snapshot.version.file)
    (distinct : (recency.row.map Prod.fst ++ snapshots.map (·.version.file)).Nodup)
    (room : ∀ capacity ∈ recency.capacity, recency.row.length + snapshots.length ≤ capacity) :
    (snapshots.foldl hydrateOne store).Mirrors
      { recency with row := recency.row ++ snapshots.map fun snapshot =>
          (snapshot.version.file, snapshot) } := by
  induction snapshots generalizing store recency with
  | nil =>
    rw [List.map_nil, List.append_nil]
    exact mirrors
  | cons snapshot rest inductionHypothesis =>
    rw [List.foldl_cons, hydrateOne_belongs store (belongs snapshot List.mem_cons_self)]
    have others : recency.others snapshot.version.file = recency.row := by
      refine List.filter_eq_self.mpr fun entry member => bne_iff_ne.mpr fun same => ?_
      exact (List.nodup_append.mp distinct).2.2 _ (List.mem_map_of_mem member) _
        List.mem_cons_self same
    have none : Recency.excess recency.capacity recency.row.length = 0 := by
      unfold Recency.excess
      cases limited : recency.capacity with
      | none => rfl
      | some capacity =>
        have room := room capacity limited
        rw [List.length_cons] at room
        rw [Option.elim_some]
        omega
    have published : recency.publish snapshot.version.file snapshot =
        { recency with row := recency.row ++ [(snapshot.version.file, snapshot)] } := by
      unfold Recency.publish
      simp only [others, none, List.drop_zero, Nat.add_zero]
    have next := mirrors.publish snapshot.version.file snapshot
    rw [published] at next
    have later := inductionHypothesis next
      (fun other member => belongs other (List.mem_cons_of_mem _ member)) ?_ ?_
    · simpa only [List.append_assoc, List.singleton_append, List.map_cons] using later
    · simpa only [List.map_append, List.map_cons, List.map_nil, List.append_assoc,
        List.singleton_append] using distinct
    · intro capacity limited
      have room := room capacity limited
      rw [List.length_cons] at room
      rw [List.length_append, List.length_singleton]
      omega

section hydrated

variable {settings : Settings} {archive : Archive} {store : Store}

theorem hydrated_eq (done : hydrated settings archive = .ok store) :
    ∃ snapshots, archive.loadAll = .ok snapshots ∧
      store = snapshots.foldl hydrateOne (Store.empty settings.cacheCapacity) := by
  unfold hydrated at done
  cases loaded : archive.loadAll with
  | error failure =>
    rw [loaded] at done
    cases done
  | ok snapshots =>
    rw [loaded] at done
    exact ⟨snapshots, rfl, (Except.ok.inj done).symm⟩

theorem belongs_hydrated (done : hydrated settings archive = .ok store) :
    store.All Snapshot.Belongs := by
  obtain ⟨snapshots, _, rfl⟩ := hydrated_eq done
  exact all_hydrated (Store.all_empty _ _) fun _ _ belongs => belongs

/-- What the store knows of a file is what the archive keeps for it. -/
theorem load?_hydrated (orderly : archive.Orderly) (done : hydrated settings archive = .ok store) :
    store.All fun file snapshot => archive.load? file = .ok (some snapshot) := by
  obtain ⟨snapshots, loaded, rfl⟩ := hydrated_eq done
  refine all_hydrated (Store.all_empty _ _) fun snapshot member _ => ?_
  obtain ⟨file, kept⟩ := (Archive.mem_loadAll loaded).mp member
  rw [orderly file snapshot kept]
  exact kept

theorem keys_hydrated (done : hydrated settings archive = .ok store) :
    store.capacity = settings.cacheCapacity ∧
      (∀ file, file ∈ store.keys ↔ (store.peek? file).isSome = true) ∧
      ∀ capacity ∈ settings.cacheCapacity, store.keys.length ≤ max capacity 1 := by
  obtain ⟨snapshots, _, rfl⟩ := hydrated_eq done
  obtain ⟨recency, mirrors, kept, bounded⟩ := mirrors_hydrated snapshots
    (Store.mirrors_empty settings.cacheCapacity) fun _ _ => Nat.zero_le _
  refine ⟨mirrors.capacity.trans kept, mirrors.mem_keys, fun capacity limited => ?_⟩
  have size := mirrors.size_eq
  rw [Store.size, Dictionary.size] at size
  rw [Store.keys, Dictionary.keys, List.length_map, size]
  exact bounded capacity limited

/-- An archive of which everything fits into the store is there as a whole. -/
theorem hydrated_all (orderly : archive.Orderly)
    (belongs : ∀ file snapshot, archive.load? file = .ok (some snapshot) → snapshot.Belongs file)
    (room : ∀ capacity ∈ settings.cacheCapacity, archive.list.length ≤ capacity)
    (done : hydrated settings archive = .ok store) :
    (∀ file snapshot, archive.load? file = .ok (some snapshot) → store.peek? file = some snapshot) ∧
      store.Roomy archive.list := by
  obtain ⟨snapshots, loaded, rfl⟩ := hydrated_eq done
  have names := orderly.names loaded
  have distinct : (snapshots.map (·.version.file)).Nodup := by
    rw [names]
    exact Dictionary.nodup_keys _
  have count : snapshots.length = archive.list.length := by rw [← names, List.length_map]
  have mirrors := mirrors_hydrated_all snapshots (Store.mirrors_empty settings.cacheCapacity) ?_
    distinct ?_
  · have known : ∀ file snapshot, archive.load? file = .ok (some snapshot) →
        (snapshots.foldl hydrateOne (Store.empty settings.cacheCapacity)).peek? file =
          some snapshot := by
      intro file snapshot kept
      rw [mirrors.peek?_eq, Dictionary.lookup_eq_some_iff]
      · exact List.mem_map.mpr ⟨snapshot, (Archive.mem_loadAll loaded).mpr ⟨file, kept⟩,
          Prod.ext (orderly file snapshot kept) rfl⟩
      · rw [List.nil_append, List.map_map]
        exact distinct
    refine ⟨known, fun capacity limited => ⟨?_, fun file listed => ?_⟩⟩
    · rw [mirrors.size_eq]
      rw [mirrors.capacity] at limited
      simpa only [List.nil_append, List.length_map, count] using room capacity limited
    · obtain ⟨⟨_, archived⟩, member, rfl⟩ := List.mem_map.mp listed
      obtain ⟨snapshot, _, kept⟩ := Archive.load?_of_mem loaded member
      rw [known _ snapshot kept]
      rfl
  · intro snapshot member
    obtain ⟨file, kept⟩ := (Archive.mem_loadAll loaded).mp member
    rw [orderly file snapshot kept]
    exact belongs file snapshot kept
  · intro capacity limited
    rw [count]
    simpa using room capacity limited

end hydrated

end Index

end Chunking
