/-
What a lineage vouches for. An id is issued if it carries a number below the next
one for its kind and name. As long as ids can be read back to their kind, name and
number, an id that is given out next has not been issued before, so it differs
from every id that has. Numbers only grow, so whatever was issued stays issued.
-/

import Chunking.Lineage
import Chunking.Proofs.Dictionary
import Mathlib.Data.List.Perm.Basic

namespace Chunking

/-- An id with the kind and the name that it is used for. -/
structure Bearer where
  id : String
  kind : Kind
  name : String

namespace Bearer

def key (bearer : Bearer) : String :=
  ChunkId.key bearer.kind bearer.name

end Bearer

def Chunk.bearer (chunk : Chunk) : Bearer :=
  ⟨chunk.id, chunk.kind, chunk.name⟩

def Tombstone.bearer (tombstone : Tombstone) : Bearer :=
  ⟨tombstone.id, tombstone.kind, tombstone.name⟩

/-- Ids of constructs with the given names tell what they are numbered by, and their number, as long
as they have a number that fits. -/
def ChunkId.ReadableWithin (fits : Nat → Prop) (named : Kind → String → Prop) : Prop :=
  ∀ ⦃file : String⦄ ⦃kind kind' : Kind⦄ ⦃name name' : String⦄ ⦃ordinal ordinal' : Nat⦄,
    named kind name → named kind' name' → fits ordinal → fits ordinal' →
    format file kind name ordinal = format file kind' name' ordinal' →
    key kind name = key kind' name' ∧ ordinal = ordinal'

/-- They do so with any number. -/
abbrev ChunkId.Readable (named : Kind → String → Prop) : Prop :=
  ReadableWithin (fun _ => True) named

/-- Kind and name matter only through the key. -/
theorem ChunkId.format_of_key_eq {kind kind' : Kind} {name name' : String}
    (sameKey : key kind name = key kind' name') (file : String) (ordinal : Nat) :
    format file kind name ordinal = format file kind' name' ordinal := by
  rw [format, format, sameKey]

theorem firstLeast?_mem {α : Type} {measure : α → Nat} {items : List α} {item : α}
    (found : firstLeast? measure items = some item) : item ∈ items := by
  induction items generalizing item with
  | nil => simp [firstLeast?] at found
  | cons head rest inductionHypothesis =>
    unfold firstLeast? at found
    split at found
    next => exact List.mem_cons.mpr (Or.inl (Option.some.inj found).symm)
    next other least =>
      split at found
      · exact Option.some.inj found ▸ List.mem_cons_of_mem _ (inductionHypothesis least)
      · exact List.mem_cons.mpr (Or.inl (Option.some.inj found).symm)

theorem firstLeast?_isSome {α : Type} (measure : α → Nat) {items : List α} (nonempty : items ≠ []) :
    (firstLeast? measure items).isSome = true := by
  cases items with
  | nil => exact absurd rfl nonempty
  | cons head rest =>
    unfold firstLeast?
    split
    · rfl
    · split <;> rfl

/-- No item has a smaller measure than the one that is chosen. -/
theorem firstLeast?_le {α : Type} {measure : α → Nat} {items : List α} {item other : α}
    (found : firstLeast? measure items = some item) (member : other ∈ items) :
    measure item ≤ measure other := by
  induction items generalizing item with
  | nil => cases member
  | cons head rest inductionHypothesis =>
    unfold firstLeast? at found
    split at found
    next nothing =>
      have empty : rest = [] := by
        by_contra nonempty
        have isSome := firstLeast?_isSome measure nonempty
        rw [nothing] at isSome
        cases isSome
      rw [empty, List.mem_singleton] at member
      exact Nat.le_of_eq (by rw [member, Option.some.inj found])
    next least known =>
      have rest : other ∈ rest → measure least ≤ measure other := inductionHypothesis known
      split at found
      next smaller =>
        obtain rfl := Option.some.inj found
        rcases List.mem_cons.mp member with rfl | later
        · exact Nat.le_of_lt smaller
        · exact rest later
      next atMost =>
        obtain rfl := Option.some.inj found
        rcases List.mem_cons.mp member with rfl | later
        · exact Nat.le_refl _
        · exact Nat.le_trans (Nat.le_of_not_lt atMost) (rest later)

namespace Lineage

/-! ### Numbers only grow -/

/-- A later lineage, none of whose numbers is behind the earlier one. -/
def Covers (later earlier : Lineage) : Prop :=
  ∀ key, earlier.nextOrdinal key ≤ later.nextOrdinal key

theorem Covers.refl (lineage : Lineage) : lineage.Covers lineage :=
  fun _ => Nat.le_refl _

theorem Covers.trans {last middle first : Lineage} (later : last.Covers middle)
    (earlier : middle.Covers first) : last.Covers first :=
  fun key => Nat.le_trans (earlier key) (later key)

theorem covers_of_ordinals_eq {later earlier : Lineage} (same : later.ordinals = earlier.ordinals) :
    later.Covers earlier :=
  fun key => Nat.le_of_eq (by rw [nextOrdinal, nextOrdinal, same])

theorem nextOrdinal_insert_self (lineage : Lineage) (key : String) (next : Nat) :
    nextOrdinal { lineage with ordinals := lineage.ordinals.insert key next } key = next := by
  rw [nextOrdinal, Dictionary.get?_insert_self, Option.getD_some]

/-- Raising the number of one key leaves no number behind. -/
theorem covers_insert (lineage : Lineage) {key : String} {next : Nat}
    (raised : lineage.nextOrdinal key ≤ next) :
    Covers { lineage with ordinals := lineage.ordinals.insert key next } lineage := by
  intro other
  by_cases same : other = key
  · rw [same, nextOrdinal_insert_self]
    exact raised
  · exact Nat.le_of_eq (by rw [nextOrdinal, nextOrdinal, Dictionary.get?_insert_of_ne _ same])

/-- All numbers given out so far fit. -/
def Within (fits : Nat → Prop) (lineage : Lineage) : Prop :=
  ∀ key, ∀ ordinal < lineage.nextOrdinal key, fits ordinal

theorem Within.of_covers {fits : Nat → Prop} {later earlier : Lineage} (within : later.Within fits)
    (covers : later.Covers earlier) : earlier.Within fits :=
  fun key ordinal below => within key ordinal (Nat.lt_of_lt_of_le below (covers key))

/-- Any number will do if all of them fit. -/
theorem within_true (lineage : Lineage) : lineage.Within fun _ => True :=
  fun _ _ _ => trivial

theorem covers_observe (lineage : Lineage) (chunk : Chunk) :
    (lineage.observe chunk).Covers lineage := by
  unfold observe
  split
  · exact .refl lineage
  · exact covers_insert lineage (Nat.le_max_left _ _)

theorem tombstones_observe (lineage : Lineage) (chunk : Chunk) :
    (lineage.observe chunk).tombstones = lineage.tombstones := by
  unfold observe
  split <;> rfl

theorem covers_foldl_observe (chunks : List Chunk) (lineage : Lineage) :
    (chunks.foldl observe lineage).Covers lineage := by
  induction chunks generalizing lineage with
  | nil => exact .refl lineage
  | cons chunk rest inductionHypothesis =>
    exact (inductionHypothesis (lineage.observe chunk)).trans (lineage.covers_observe chunk)

theorem tombstones_foldl_observe (chunks : List Chunk) (lineage : Lineage) :
    (chunks.foldl observe lineage).tombstones = lineage.tombstones := by
  induction chunks generalizing lineage with
  | nil => rfl
  | cons chunk rest inductionHypothesis =>
    rw [List.foldl_cons, inductionHypothesis, tombstones_observe]

theorem nextOrdinal_observe_of_ne (lineage : Lineage) {chunk : Chunk} {key : String}
    (other : key ≠ chunk.key) : (lineage.observe chunk).nextOrdinal key = lineage.nextOrdinal key := by
  unfold observe
  split
  · rfl
  · rw [nextOrdinal, Dictionary.get?_insert_of_ne _ other]
    rfl

theorem nextOrdinal_foldl_observe {chunks : List Chunk} {key : String}
    (others : ∀ chunk ∈ chunks, key ≠ chunk.key) (lineage : Lineage) :
    (chunks.foldl observe lineage).nextOrdinal key = lineage.nextOrdinal key := by
  induction chunks generalizing lineage with
  | nil => rfl
  | cons chunk rest inductionHypothesis =>
    rw [List.foldl_cons,
      inductionHypothesis fun other member => others other (List.mem_cons_of_mem _ member),
      nextOrdinal_observe_of_ne _ (others chunk List.mem_cons_self)]

theorem bearers_shift (lineage : Lineage) (changes : List LineChange) :
    (lineage.shift changes).tombstones.map Tombstone.bearer =
      lineage.tombstones.map Tombstone.bearer := by
  rw [shift, List.map_map]
  rfl

theorem covers_bury (lineage : Lineage) (chunk : Chunk) (line : Nat) :
    (lineage.bury chunk line).Covers lineage :=
  lineage.covers_observe chunk

/-- Burying adds at most one id behind the others, and never keeps more than the limit. -/
theorem tombstones_bury (lineage : Lineage) (chunk : Chunk) (line : Nat) :
    (lineage.bury chunk line).tombstones.Sublist
        (lineage.tombstones ++ [⟨chunk.id, chunk.kind, chunk.name, line⟩]) ∧
      (lineage.bury chunk line).tombstones.length ≤ tombstoneLimit := by
  rw [bury]
  simp only [tombstones_observe]
  constructor
  · exact (List.drop_sublist _ _).trans (List.filter_sublist.append_right _)
  · rw [List.length_drop]
    omega

/-! ### Issued ids -/

/-- The id carries a number below the next one for the kind and the name. -/
def Issued (lineage : Lineage) (file : String) (bearer : Bearer) : Prop :=
  ∃ ordinal < lineage.nextOrdinal bearer.key,
    bearer.id = ChunkId.format file bearer.kind bearer.name ordinal

theorem Issued.mono {later earlier : Lineage} {file : String} {bearer : Bearer}
    (covers : later.Covers earlier) (issued : earlier.Issued file bearer) :
    later.Issued file bearer := by
  obtain ⟨ordinal, below, written⟩ := issued
  exact ⟨ordinal, Nat.lt_of_lt_of_le below (covers bearer.key), written⟩

theorem Issued.of_key_eq {lineage : Lineage} {file : String} {first second : Bearer}
    (sameId : first.id = second.id) (sameKey : first.key = second.key)
    (issued : lineage.Issued file first) : lineage.Issued file second := by
  obtain ⟨ordinal, below, written⟩ := issued
  refine ⟨ordinal, sameKey ▸ below, ?_⟩
  rw [← sameId, written]
  exact ChunkId.format_of_key_eq sameKey file ordinal

/-- The id was issued to someone with a name as it should be. -/
def Knows (lineage : Lineage) (file : String) (named : Kind → String → Prop) (id : String) : Prop :=
  ∃ bearer : Bearer, bearer.id = id ∧ named bearer.kind bearer.name ∧ lineage.Issued file bearer

theorem Knows.mono {later earlier : Lineage} {file : String} {named : Kind → String → Prop}
    {id : String} (covers : later.Covers earlier) (known : earlier.Knows file named id) :
    later.Knows file named id := by
  obtain ⟨bearer, same, proper, issued⟩ := known
  exact ⟨bearer, same, proper, issued.mono covers⟩

/-- The lineage knows all of the bearers, their names are as they should be, and no two of them
share an id. -/
structure Vouches (lineage : Lineage) (file : String) (named : Kind → String → Prop)
    (bearers : List Bearer) : Prop where
  distinct : (bearers.map Bearer.id).Nodup
  named : ∀ bearer ∈ bearers, named bearer.kind bearer.name
  issued : ∀ bearer ∈ bearers, lineage.Issued file bearer

namespace Vouches

variable {lineage : Lineage} {file : String} {named : Kind → String → Prop}
  {bearers others : List Bearer}

theorem nil (lineage : Lineage) (file : String) (named : Kind → String → Prop) :
    lineage.Vouches file named [] :=
  ⟨List.nodup_nil, by simp, by simp⟩

theorem perm (vouches : lineage.Vouches file named bearers) (same : bearers.Perm others) :
    lineage.Vouches file named others :=
  ⟨(same.map _).nodup_iff.mp vouches.distinct,
    fun bearer member => vouches.named bearer (same.mem_iff.mpr member),
    fun bearer member => vouches.issued bearer (same.mem_iff.mpr member)⟩

theorem sublist (vouches : lineage.Vouches file named bearers) (fewer : others.Sublist bearers) :
    lineage.Vouches file named others :=
  ⟨(fewer.map _).nodup vouches.distinct,
    fun bearer member => vouches.named bearer (fewer.subset member),
    fun bearer member => vouches.issued bearer (fewer.subset member)⟩

theorem mono {later : Lineage} (vouches : lineage.Vouches file named bearers)
    (covers : later.Covers lineage) : later.Vouches file named bearers :=
  ⟨vouches.distinct, vouches.named, fun bearer member => (vouches.issued bearer member).mono covers⟩

theorem knows {id : String} (vouches : lineage.Vouches file named bearers)
    (member : id ∈ bearers.map Bearer.id) : lineage.Knows file named id := by
  obtain ⟨bearer, bearerMember, same⟩ := List.mem_map.mp member
  exact ⟨bearer, same, vouches.named bearer bearerMember, vouches.issued bearer bearerMember⟩

/-- An id may pass to another bearer with the same key. -/
theorem pass {first second : Bearer} (vouches : lineage.Vouches file named (first :: bearers))
    (sameId : first.id = second.id) (sameKey : first.key = second.key)
    (proper : named second.kind second.name) :
    lineage.Vouches file named (second :: bearers) := by
  refine ⟨?_, fun bearer member => ?_, fun bearer member => ?_⟩
  · have distinct := vouches.distinct
    rw [List.map_cons] at distinct ⊢
    rwa [sameId] at distinct
  · rcases List.mem_cons.mp member with rfl | later
    · exact proper
    · exact vouches.named bearer (List.mem_cons_of_mem _ later)
  · rcases List.mem_cons.mp member with rfl | later
    · exact (vouches.issued first List.mem_cons_self).of_key_eq sameId sameKey
    · exact vouches.issued bearer (List.mem_cons_of_mem _ later)

end Vouches

/-- The lineage knows the ids of the chunks and its remembered ones, all of them different, and it
does not remember too many. -/
structure Accounts (lineage : Lineage) (file : String) (named : Kind → String → Prop)
    (chunks : List Chunk) : Prop where
  vouches : lineage.Vouches file named
    (chunks.map Chunk.bearer ++ lineage.tombstones.map Tombstone.bearer)
  few : lineage.tombstones.length ≤ tombstoneLimit

theorem Accounts.perm {lineage : Lineage} {file : String} {named : Kind → String → Prop}
    {chunks others : List Chunk} (accounts : lineage.Accounts file named chunks)
    (same : (chunks.map Chunk.bearer).Perm (others.map Chunk.bearer)) :
    lineage.Accounts file named others :=
  ⟨accounts.vouches.perm (.append_right _ same), accounts.few⟩

theorem Accounts.distinct {lineage : Lineage} {file : String} {named : Kind → String → Prop}
    {chunks : List Chunk} (accounts : lineage.Accounts file named chunks) :
    (chunks.map Chunk.id).Nodup := by
  have distinct := accounts.vouches.distinct
  rw [List.map_append, List.map_map] at distinct
  exact (List.nodup_append.mp distinct).1

/-- A new file has no ids to account for. -/
theorem accounts_empty (file : String) (named : Kind → String → Prop) :
    ({} : Lineage).Accounts file named [] :=
  ⟨.nil _ file named, Nat.zero_le _⟩

/-! ### Giving out -/

/-- The lineage after the next number of a key was given out. -/
def advance (lineage : Lineage) (key : String) : Lineage :=
  { lineage with ordinals := lineage.ordinals.insert key (lineage.nextOrdinal key + 1) }

theorem covers_advance (lineage : Lineage) (key : String) : (lineage.advance key).Covers lineage :=
  covers_insert lineage (Nat.le_succ _)

theorem firstFree_of_free {isTaken : Nat → Bool} {ordinal : Nat} (free : isTaken ordinal = false)
    (tries : Nat) : firstFree isTaken tries ordinal = ordinal := by
  cases tries with
  | zero => rfl
  | succ tries => rw [firstFree, if_neg (by rw [free]; exact Bool.false_ne_true)]

theorem le_firstFree (isTaken : Nat → Bool) (tries ordinal : Nat) :
    ordinal ≤ firstFree isTaken tries ordinal := by
  induction tries generalizing ordinal with
  | zero => exact Nat.le_refl ordinal
  | succ tries inductionHypothesis =>
    unfold firstFree
    split
    · exact Nat.le_of_succ_le (inductionHypothesis (ordinal + 1))
    · exact Nat.le_refl ordinal

/-- Whatever number an id gets, the next one is used up. -/
theorem nextOrdinal_lt_allocate (lineage : Lineage) (file : String) (kind : Kind) (name : String)
    (live : List String) : lineage.nextOrdinal (ChunkId.key kind name) <
      (lineage.allocate file kind name live).2.nextOrdinal (ChunkId.key kind name) := by
  rw [allocate, nextOrdinal_insert_self]
  exact Nat.lt_succ_of_le (le_firstFree _ _ _)

theorem covers_allocate (lineage : Lineage) (file : String) (kind : Kind) (name : String)
    (live : List String) : (lineage.allocate file kind name live).2.Covers lineage :=
  covers_insert lineage (Nat.le_succ_of_le (le_firstFree _ _ _))

section allocation

variable {fits : Nat → Prop} {lineage : Lineage} {file : String} {named : Kind → String → Prop}
  (readable : ChunkId.ReadableWithin fits named) {kind : Kind} {name : String}
  (proper : named kind name) (within : lineage.Within fits)
  (nextFits : fits (lineage.nextOrdinal (ChunkId.key kind name)))

include readable proper within nextFits

/-- The id with the next number has not been issued under any key. -/
theorem not_knows_next : ¬ lineage.Knows file named
    (ChunkId.format file kind name (lineage.nextOrdinal (ChunkId.key kind name))) := by
  rintro ⟨bearer, same, bearerNamed, ordinal, below, written⟩
  obtain ⟨sameKey, sameOrdinal⟩ := readable bearerNamed proper (within _ _ below) nextFits
    (written.symm.trans same)
  rw [Bearer.key, sameKey, sameOrdinal] at below
  exact Nat.lt_irrefl _ below

/-- If all live ids are issued, the next number is free at once. -/
theorem allocate_eq {live : List String} (known : ∀ id ∈ live, lineage.Knows file named id) :
    lineage.allocate file kind name live =
      (ChunkId.format file kind name (lineage.nextOrdinal (ChunkId.key kind name)),
        lineage.advance (ChunkId.key kind name)) := by
  have free : (fun ordinal => live.contains (ChunkId.format file kind name ordinal))
      (lineage.nextOrdinal (ChunkId.key kind name)) = false := by
    simp only
    rw [List.contains_eq_mem, decide_eq_false_iff_not]
    exact fun member => not_knows_next readable proper within nextFits (known _ member)
  rw [allocate, firstFree_of_free free]
  rfl

/-- A lineage that gives out an id vouches for it together with all others. -/
theorem Vouches.give {bearers : List Bearer} (vouches : lineage.Vouches file named bearers) :
    (lineage.advance (ChunkId.key kind name)).Vouches file named
      (⟨ChunkId.format file kind name (lineage.nextOrdinal (ChunkId.key kind name)), kind, name⟩
        :: bearers) := by
  have grown := vouches.mono (lineage.covers_advance (ChunkId.key kind name))
  refine ⟨?_, fun bearer member => ?_, fun bearer member => ?_⟩
  · rw [List.map_cons, List.nodup_cons]
    refine ⟨fun member => ?_, grown.distinct⟩
    exact not_knows_next readable proper within nextFits (vouches.knows member)
  · rcases List.mem_cons.mp member with rfl | later
    · exact proper
    · exact grown.named bearer later
  · rcases List.mem_cons.mp member with rfl | later
    · refine ⟨lineage.nextOrdinal (ChunkId.key kind name), ?_, rfl⟩
      rw [Bearer.key, advance, nextOrdinal_insert_self]
      exact Nat.lt_succ_self _
    · exact grown.issued bearer later

end allocation

/-! ### Bringing back -/

/-- A dropped id that is brought back was among the remembered ones, under its kind and name. -/
theorem revive_eq_some {lineage after : Lineage} {kind : Kind} {name id : String} {span : Span}
    {distance : Nat} (revived : lineage.revive kind name span distance = (some id, after)) :
    ∃ tombstone place, lineage.tombstones[place]? = some tombstone ∧
      tombstone.bearer = ⟨id, kind, name⟩ ∧
      after = { lineage with tombstones := lineage.tombstones.eraseIdx place } := by
  unfold revive at revived
  split at revived
  next => simp at revived
  next tombstone place found =>
    obtain ⟨sameId, sameAfter⟩ := Prod.mk.inj revived
    have among := List.mem_reverse.mp (firstLeast?_mem found)
    obtain ⟨listed, fitting⟩ := List.mem_filter.mp among
    simp only [Bool.and_eq_true, decide_eq_true_eq] at fitting
    refine ⟨tombstone, place, List.mem_zipIdx_iff_getElem?.mp listed, ?_, sameAfter.symm⟩
    rw [Tombstone.bearer, Option.some.inj sameId, fitting.1.1, fitting.1.2]

theorem revive_eq_none {lineage after : Lineage} {kind : Kind} {name : String} {span : Span}
    {distance : Nat} (revived : lineage.revive kind name span distance = (none, after)) :
    after = lineage := by
  unfold revive at revived
  split at revived
  next => exact (Prod.mk.inj revived).2.symm
  next => simp at revived

end Lineage

end Chunking
