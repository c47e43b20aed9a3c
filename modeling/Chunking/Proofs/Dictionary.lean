/-
Reading dictionaries after they were changed. A name has the value that was last
given to it, and no change of one name shows at another. Where the order of the
entries does not matter, a change puts one entry in front and takes others out.
-/

import Chunking.Dictionary
import Mathlib.Data.List.Basic

namespace Chunking.Dictionary

variable {α : Type}

theorem eq_of_entries {left right : Dictionary α} (same : left.entries = right.entries) :
    left = right := by
  cases left
  cases right
  cases same
  rfl

theorem lookup_insertEntry_self (key : String) (value : α) (entries : List (String × α)) :
    (insertEntry key value entries).lookup key = some value := by
  induction entries with
  | nil => simp [insertEntry]
  | cons entry rest inductionHypothesis =>
    unfold insertEntry
    split
    · simp
    · split
      · simp
      next different =>
        have other : (key == entry.1) = false := beq_eq_false_iff_ne.mpr different
        rw [List.lookup_cons, other]
        exact inductionHypothesis

theorem lookup_insertEntry_of_ne {key name : String} (different : name ≠ key) (value : α)
    (entries : List (String × α)) :
    (insertEntry key value entries).lookup name = entries.lookup name := by
  have other : (name == key) = false := beq_eq_false_iff_ne.mpr different
  induction entries with
  | nil => simp [insertEntry, List.lookup_cons, other]
  | cons entry rest inductionHypothesis =>
    unfold insertEntry
    split
    · rw [List.lookup_cons, other]
    · split
      next same =>
        rw [List.lookup_cons, other, List.lookup_cons, ← same, other]
      next =>
        rw [List.lookup_cons, List.lookup_cons, inductionHypothesis]

theorem get?_insert_self (dictionary : Dictionary α) (key : String) (value : α) :
    (dictionary.insert key value).get? key = some value :=
  lookup_insertEntry_self key value dictionary.entries

theorem get?_insert_of_ne (dictionary : Dictionary α) {key name : String} (different : name ≠ key)
    (value : α) : (dictionary.insert key value).get? name = dictionary.get? name :=
  lookup_insertEntry_of_ne different value dictionary.entries

/-- When entries are chosen by their names, the chosen names keep their values. -/
theorem get?_filter (keep : String → Bool) (dictionary : Dictionary α) (name : String) :
    (dictionary.filter fun entry => keep entry.1).get? name =
      if keep name then dictionary.get? name else none := by
  rw [filter, get?, get?]
  simp only
  induction dictionary.entries with
  | nil => rw [List.filter_nil, List.lookup_nil, ite_self]
  | cons entry rest inductionHypothesis =>
    by_cases same : name = entry.1
    · by_cases kept : keep name = true
      · rw [List.filter_cons_of_pos (same ▸ kept), if_pos kept, List.lookup_cons, List.lookup_cons,
          same, beq_self_eq_true]
      · rw [List.filter_cons_of_neg (same ▸ kept), inductionHypothesis, if_neg kept, if_neg kept]
    · have other : (name == entry.1) = false := beq_eq_false_iff_ne.mpr same
      rw [List.lookup_cons, other, ← inductionHypothesis, List.filter_cons]
      split
      · rw [List.lookup_cons, other]
      · rfl

theorem get?_erase_of_ne (dictionary : Dictionary α) {key name : String} (different : name ≠ key) :
    (dictionary.erase key).get? name = dictionary.get? name :=
  (get?_filter (· != key) dictionary name).trans (if_pos (bne_iff_ne.mpr different))

theorem get?_erase_self (dictionary : Dictionary α) (key : String) :
    (dictionary.erase key).get? key = none :=
  (get?_filter (· != key) dictionary key).trans (if_neg (by simp))

/-! ### One change after another -/

theorem insertEntry_insertEntry (key : String) (first second : α) (entries : List (String × α)) :
    insertEntry key second (insertEntry key first entries) = insertEntry key second entries := by
  induction entries with
  | nil => simp [insertEntry]
  | cons entry rest inductionHypothesis =>
    by_cases below : key < entry.1
    · simp [insertEntry, below]
    · by_cases same : key = entry.1
      · simp [insertEntry, ← same]
      · simp [insertEntry, below, same, inductionHypothesis]

/-- Of two values given to a name one after the other, only the second counts. -/
theorem insert_insert (dictionary : Dictionary α) (key : String) (first second : α) :
    (dictionary.insert key first).insert key second = dictionary.insert key second := by
  simp only [insert, insertEntry_insertEntry]

theorem filter_insertEntry (key : String) (value : α) (entries : List (String × α)) :
    (insertEntry key value entries).filter (fun entry => entry.1 != key) =
      entries.filter fun entry => entry.1 != key := by
  induction entries with
  | nil => simp [insertEntry]
  | cons entry rest inductionHypothesis =>
    unfold insertEntry
    split
    · simp
    · split
      next same => simp [← same]
      next => rw [List.filter_cons, List.filter_cons, inductionHypothesis]

/-- A name that is entered and taken out again leaves nothing behind. -/
theorem erase_insert {dictionary : Dictionary α} {key : String}
    (missing : dictionary.get? key = none) (value : α) :
    (dictionary.insert key value).erase key = dictionary := by
  have others : dictionary.entries.filter (fun entry => entry.1 != key) = dictionary.entries := by
    refine List.filter_eq_self.mpr fun entry member => ?_
    have different := List.lookup_eq_none_iff.mp missing entry member
    rw [bne_comm]
    simpa [bne] using different
  have entries : ((dictionary.insert key value).erase key).entries = dictionary.entries :=
    (filter_insertEntry key value dictionary.entries).trans others
  exact eq_of_entries entries

/-! ### Names -/

theorem nodup_keys (dictionary : Dictionary α) : dictionary.keys.Nodup := by
  refine List.Pairwise.imp ?_ dictionary.ordered
  rintro left _ below rfl
  exact String.lt_irrefl left below

theorem mem_keys {dictionary : Dictionary α} {key : String} :
    key ∈ dictionary.keys ↔ (dictionary.get? key).isSome = true := by
  rw [get?, List.lookup_isSome_iff, keys, List.mem_map]
  simp only [beq_iff_eq, @eq_comm _ key]

theorem keys_erase (dictionary : Dictionary α) (key : String) :
    (dictionary.erase key).keys = dictionary.keys.erase key := by
  rw [(nodup_keys dictionary).erase_eq_filter, keys, keys, List.filter_map]
  rfl

theorem size_erase_of_mem {dictionary : Dictionary α} {key : String}
    (member : key ∈ dictionary.keys) : (dictionary.erase key).size + 1 = dictionary.size := by
  have removed := congrArg List.length (keys_erase dictionary key)
  rw [List.length_erase_of_mem member, keys, keys, List.length_map, List.length_map] at removed
  have positive := List.length_pos_of_mem member
  rw [keys, List.length_map] at positive
  rw [size, size, removed]
  omega

theorem size_insert (dictionary : Dictionary α) (key : String) (value : α) :
    (dictionary.insert key value).size = (dictionary.erase key).size + 1 := by
  have there : key ∈ (dictionary.insert key value).keys := by
    rw [mem_keys, get?_insert_self, Option.isSome_some]
  have same : ((dictionary.insert key value).erase key).size = (dictionary.erase key).size :=
    congrArg List.length (filter_insertEntry key value dictionary.entries)
  rw [← size_erase_of_mem there, same]

/-! ### Entries -/

/-- Entries whose names are all above a name are kept when that name is taken out. -/
theorem filter_of_above {key : String} {entries : List (String × α)}
    (above : ∀ name ∈ entries.map Prod.fst, key < name) :
    entries.filter (fun entry => entry.1 != key) = entries := by
  refine List.filter_eq_self.mpr fun entry member => bne_iff_ne.mpr fun same => ?_
  exact String.lt_irrefl key (same ▸ above entry.1 (List.mem_map_of_mem member))

theorem insertEntry_perm (key : String) (value : α) {entries : List (String × α)}
    (ordered : (entries.map Prod.fst).Pairwise (· < ·)) :
    (insertEntry key value entries).Perm
      ((key, value) :: entries.filter fun entry => entry.1 != key) := by
  induction entries with
  | nil => exact List.Perm.refl _
  | cons entry rest inductionHypothesis =>
    rw [List.map_cons, List.pairwise_cons] at ordered
    obtain ⟨above, orderedRest⟩ := ordered
    unfold insertEntry
    split
    next below =>
      have allAbove : ∀ name ∈ (entry :: rest).map Prod.fst, key < name := by
        rw [List.map_cons, List.forall_mem_cons]
        exact ⟨below, fun name member => String.lt_trans below (above name member)⟩
      rw [filter_of_above allAbove]
    next =>
      by_cases same : key = entry.1
      · rw [if_pos same, List.filter_cons, if_neg (by simp [same]), filter_of_above (same ▸ above)]
      · rw [if_neg same, List.filter_cons, if_pos (by simpa using Ne.symm same)]
        exact ((inductionHypothesis orderedRest).cons entry).trans (List.Perm.swap _ _ _)

/-- Apart from their order, the entries are the new one and those of other names. -/
theorem entries_insert_perm (dictionary : Dictionary α) (key : String) (value : α) :
    (dictionary.insert key value).entries.Perm ((key, value) :: (dictionary.erase key).entries) :=
  insertEntry_perm key value dictionary.ordered

theorem lookup_eq_some_iff {key : String} {value : α} {entries : List (String × α)}
    (distinct : (entries.map Prod.fst).Nodup) :
    entries.lookup key = some value ↔ (key, value) ∈ entries := by
  induction entries with
  | nil => simp
  | cons entry rest inductionHypothesis =>
    obtain ⟨name, held⟩ := entry
    rw [List.map_cons, List.nodup_cons] at distinct
    rw [List.lookup_cons, List.mem_cons, Prod.mk.injEq]
    by_cases same : key = name
    · have absent : (key, value) ∉ rest := by
        intro member
        have listed : key ∈ rest.map Prod.fst := List.mem_map_of_mem member
        exact distinct.1 (same ▸ listed)
      simp only [same, beq_self_eq_true, Option.some.injEq, true_and, same ▸ absent, or_false]
      exact eq_comm
    · have other : (key == name) = false := beq_eq_false_iff_ne.mpr same
      simp only [other, inductionHypothesis distinct.2, same, false_and, false_or]

theorem get?_eq_some_iff {dictionary : Dictionary α} {key : String} {value : α} :
    dictionary.get? key = some value ↔ (key, value) ∈ dictionary.entries :=
  lookup_eq_some_iff (nodup_keys dictionary)

theorem filterMap_insertEntry {β : Type} {pick : String × α → Option β} {key : String}
    {old new : α} {entries : List (String × α)}
    (ordered : (entries.map Prod.fst).Pairwise (· < ·)) (member : (key, old) ∈ entries)
    (alike : pick (key, new) = pick (key, old)) :
    (insertEntry key new entries).filterMap pick = entries.filterMap pick := by
  induction entries with
  | nil => cases member
  | cons entry rest inductionHypothesis =>
    rw [List.map_cons, List.pairwise_cons] at ordered
    rcases List.mem_cons.mp member with rfl | later
    · rw [insertEntry, if_neg (String.lt_irrefl key), if_pos rfl, List.filterMap_cons,
        List.filterMap_cons, alike]
    · have below : entry.1 < key := ordered.1 key (List.mem_map_of_mem (f := Prod.fst) later)
      have different : key ≠ entry.1 := fun same => String.lt_irrefl key (same ▸ below)
      rw [insertEntry, if_neg (String.lt_asymm below), if_neg different, List.filterMap_cons,
        List.filterMap_cons, inductionHypothesis ordered.2 later]

/-- A value in the place of another is not noticed by what treats the two alike. -/
theorem filterMap_insert {β : Type} {pick : String × α → Option β} {dictionary : Dictionary α}
    {key : String} {old new : α} (there : dictionary.get? key = some old)
    (alike : pick (key, new) = pick (key, old)) :
    (dictionary.insert key new).entries.filterMap pick = dictionary.entries.filterMap pick :=
  filterMap_insertEntry dictionary.ordered (get?_eq_some_iff.mp there) alike

/-! ### Entries one after another -/

theorem insertEntry_last {key : String} {value : α} {entries : List (String × α)}
    (above : ∀ entry ∈ entries, entry.1 < key) :
    insertEntry key value entries = entries ++ [(key, value)] := by
  induction entries with
  | nil => rfl
  | cons entry rest inductionHypothesis =>
    have below := above entry List.mem_cons_self
    have notAbove : ¬ key < entry.1 := String.lt_asymm below
    have different : key ≠ entry.1 := fun same => String.lt_irrefl key (same ▸ below)
    rw [insertEntry, if_neg notAbove, if_neg different,
      inductionHypothesis fun other member => above other (List.mem_cons_of_mem _ member)]
    rfl

theorem entries_foldl_insert (entries : List (String × α)) (dictionary : Dictionary α)
    (ordered : ((dictionary.entries ++ entries).map Prod.fst).Pairwise (· < ·)) :
    (entries.foldl (fun dictionary entry => dictionary.insert entry.1 entry.2) dictionary).entries =
      dictionary.entries ++ entries := by
  induction entries generalizing dictionary with
  | nil => exact (List.append_nil _).symm
  | cons entry rest inductionHypothesis =>
    have above : ∀ earlier ∈ dictionary.entries, earlier.1 < entry.1 := by
      intro earlier member
      rw [List.map_append, List.pairwise_append] at ordered
      exact ordered.2.2 _ (List.mem_map_of_mem member) _ List.mem_cons_self
    have last : (dictionary.insert entry.1 entry.2).entries = dictionary.entries ++ [entry] :=
      insertEntry_last above
    rw [List.foldl_cons, inductionHypothesis _ (by rwa [last, List.append_assoc]), last,
      List.append_assoc]
    rfl

/-- Entries that are in order make up the dictionary that they come from. -/
theorem ofList_entries (dictionary : Dictionary α) : ofList dictionary.entries = dictionary := by
  have entries : (ofList dictionary.entries).entries = dictionary.entries :=
    entries_foldl_insert dictionary.entries empty dictionary.ordered
  exact eq_of_entries entries

/-! ### Other values -/

theorem lookup_map {β : Type} (change : α → β) (key : String) (entries : List (String × α)) :
    (entries.map fun entry => (entry.1, change entry.2)).lookup key =
      (entries.lookup key).map change := by
  induction entries with
  | nil => rfl
  | cons entry rest inductionHypothesis =>
    obtain ⟨name, value⟩ := entry
    simp only [List.map_cons, List.lookup_cons]
    cases key == name with
    | true => rfl
    | false => exact inductionHypothesis

theorem insertEntry_map {β : Type} (change : α → β) (key : String) (value : α)
    (entries : List (String × α)) :
    insertEntry key (change value) (entries.map fun entry => (entry.1, change entry.2)) =
      (insertEntry key value entries).map fun entry => (entry.1, change entry.2) := by
  induction entries with
  | nil => rfl
  | cons entry rest inductionHypothesis =>
    simp only [List.map_cons, insertEntry, inductionHypothesis]
    split
    · rfl
    · split <;> rfl

end Chunking.Dictionary
