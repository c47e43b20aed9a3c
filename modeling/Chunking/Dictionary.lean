/-
Finite maps from names to values, kept as lists of entries with strictly
increasing names. The order is part of the type, so two dictionaries with the
same entries are equal and the names come out sorted wherever they are shown.
-/

namespace Chunking

/-- Entries with strictly increasing names. -/
structure Dictionary (α : Type) where
  entries : List (String × α)
  ordered : (entries.map Prod.fst).Pairwise (· < ·)

namespace Dictionary

variable {α : Type}

instance [DecidableEq α] : DecidableEq (Dictionary α) := fun left right =>
  match decEq left.entries right.entries with
  | isTrue same => isTrue (by cases left; cases right; cases same; rfl)
  | isFalse different => isFalse fun same => different (by rw [same])

instance [Repr α] : Repr (Dictionary α) where
  reprPrec dictionary := reprPrec dictionary.entries

def empty : Dictionary α := ⟨[], List.Pairwise.nil⟩

instance : Inhabited (Dictionary α) := ⟨empty⟩

instance : EmptyCollection (Dictionary α) := ⟨empty⟩

def size (dictionary : Dictionary α) : Nat :=
  dictionary.entries.length

def isEmpty (dictionary : Dictionary α) : Bool :=
  dictionary.entries.isEmpty

def keys (dictionary : Dictionary α) : List String :=
  dictionary.entries.map Prod.fst

def get? (dictionary : Dictionary α) (key : String) : Option α :=
  dictionary.entries.lookup key

def contains (dictionary : Dictionary α) (key : String) : Bool :=
  (dictionary.get? key).isSome

/-! ### Insertion -/

/-- Puts an entry at its place and replaces an entry of the same name. -/
def insertEntry (key : String) (value : α) : List (String × α) → List (String × α)
  | [] => [(key, value)]
  | entry :: rest =>
    if key < entry.1 then (key, value) :: entry :: rest
    else if key = entry.1 then (key, value) :: rest
    else entry :: insertEntry key value rest

theorem mem_keys_insertEntry {key name : String} {value : α} {entries : List (String × α)}
    (member : name ∈ (insertEntry key value entries).map Prod.fst) :
    name = key ∨ name ∈ entries.map Prod.fst := by
  induction entries with
  | nil => simpa [insertEntry] using member
  | cons entry rest inductionHypothesis =>
    unfold insertEntry at member
    split at member
    · simpa using member
    · split at member
      · rcases List.mem_cons.mp member with found | found
        · exact Or.inl found
        · exact Or.inr (List.mem_cons_of_mem _ found)
      · rcases List.mem_cons.mp member with found | found
        · exact Or.inr (by rw [found]; exact List.mem_cons_self)
        · rcases inductionHypothesis found with same | among
          · exact Or.inl same
          · exact Or.inr (List.mem_cons_of_mem _ among)

theorem lt_of_not_lt_of_ne {left right : String} (notBelow : ¬ left < right) (different : left ≠ right) :
    right < left := by
  rcases Decidable.em (right < left) with below | notAbove
  · exact below
  · exact absurd (String.le_antisymm notAbove notBelow) different

theorem ordered_insertEntry (key : String) (value : α) {entries : List (String × α)}
    (ordered : (entries.map Prod.fst).Pairwise (· < ·)) :
    ((insertEntry key value entries).map Prod.fst).Pairwise (· < ·) := by
  induction entries with
  | nil => simp [insertEntry]
  | cons entry rest inductionHypothesis =>
    rw [List.map_cons, List.pairwise_cons] at ordered
    unfold insertEntry
    split
    next below =>
      simp only [List.map_cons, List.pairwise_cons]
      refine ⟨?_, ordered⟩
      intro name member
      rcases List.mem_cons.mp member with same | among
      · exact same ▸ below
      · exact String.lt_trans below (ordered.1 name among)
    next notBelow =>
      split
      next same =>
        rw [List.map_cons, List.pairwise_cons]
        exact ⟨fun name among => same ▸ ordered.1 name among, ordered.2⟩
      next different =>
        rw [List.map_cons, List.pairwise_cons]
        refine ⟨?_, inductionHypothesis ordered.2⟩
        intro name member
        rcases mem_keys_insertEntry member with same | among
        · exact same ▸ lt_of_not_lt_of_ne notBelow different
        · exact ordered.1 name among

/-- Gives a name a value, in place of the one it had. -/
def insert (dictionary : Dictionary α) (key : String) (value : α) : Dictionary α :=
  ⟨insertEntry key value dictionary.entries, ordered_insertEntry key value dictionary.ordered⟩

/-- Enters the pairs one after another, so the last of several values for a name stays. -/
def ofList (pairs : List (String × α)) : Dictionary α :=
  pairs.foldl (fun dictionary pair => dictionary.insert pair.1 pair.2) empty

/-! ### Removal -/

/-- Keeps the entries that satisfy `keep`. -/
def filter (keep : String × α → Bool) (dictionary : Dictionary α) : Dictionary α :=
  ⟨dictionary.entries.filter keep,
    dictionary.ordered.sublist (List.Sublist.map _ List.filter_sublist)⟩

def erase (dictionary : Dictionary α) (key : String) : Dictionary α :=
  dictionary.filter fun entry => entry.1 != key

end Dictionary

end Chunking
