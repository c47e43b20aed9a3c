/-
The store of current versions, one for each file. A store may have a capacity:
when a publication leaves too many files, the ones that were not used for the
longest time are dropped, but never the file just published. Looking at a file
without using it leaves no trace.

Whoever wants to publish something gets the slot of the file in hand first. It is
empty if there was none, and if it still is when the work is done, it is taken
away again.
-/

import Chunking.Version

namespace Chunking

/-- A version together with the text that it describes. -/
structure Snapshot where
  version : Version
  text : String
  deriving Repr

/-- The place of a file: its snapshot, once there is one, and when it was last used. -/
structure Slot where
  current : Option Snapshot := none
  lastUsed : Nat := 0
  deriving Repr

structure Store where
  /-- How many files are kept; all of them if there is no number. -/
  capacity : Option Nat := none
  slots : Dictionary Slot := {}
  /-- The number of uses so far. -/
  clock : Nat := 0
  /-- The number of files dropped for want of room. -/
  evictions : Nat := 0
  deriving Repr

namespace Store

/-- What is told about a store. -/
structure Stats where
  files : Nat
  chunks : Nat
  capacity : Option Nat
  evictions : Nat
  deriving DecidableEq, Repr

def empty (capacity : Option Nat) : Store :=
  { capacity }

def size (store : Store) : Nat :=
  store.slots.size

def isEmpty (store : Store) : Bool :=
  store.slots.isEmpty

/-- The files in the store, sorted. -/
def keys (store : Store) : List String :=
  store.slots.keys

def stats (store : Store) : Stats :=
  { files := store.size
    chunks := (store.slots.entries.map fun (_, slot) =>
      slot.current.elim 0 fun snapshot => snapshot.version.chunks.length).foldr (· + ·) 0
    capacity := store.capacity
    evictions := store.evictions }

/-! ### Reading -/

/-- The snapshot of a file; this does not count as a use. -/
def peek? (store : Store) (key : String) : Option Snapshot :=
  (store.slots.get? key).bind Slot.current

/-- Enters a snapshot as used just now. -/
def touch (store : Store) (key : String) (snapshot : Snapshot) : Store :=
  { store with
    slots := store.slots.insert key ⟨some snapshot, store.clock + 1⟩
    clock := store.clock + 1 }

/-- The snapshot of a file, and the store after this use of it. -/
def snapshot (store : Store) (key : String) : Option Snapshot × Store :=
  match store.peek? key with
  | none => (none, store)
  | some snapshot => (some snapshot, store.touch key snapshot)

/-! ### Publication -/

/-- The order in which files are dropped: by their last use, and then by name. -/
def leastUsedFirst (left right : String × Slot) : Bool :=
  left.2.lastUsed < right.2.lastUsed
    || (left.2.lastUsed == right.2.lastUsed && left.1 ≤ right.1)

/-- The files to drop in order to come down to a capacity without dropping `kept`. -/
def victims (store : Store) (kept : String) (capacity : Nat) : List String :=
  let others := store.slots.entries.filter (·.1 != kept)
  ((others.mergeSort leastUsedFirst).take (store.size - capacity)).map Prod.fst

/-- Drops files until the capacity is kept. -/
def evict (store : Store) (kept : String) : Store :=
  match store.capacity with
  | none => store
  | some capacity =>
    let victims := store.victims kept capacity
    { store with
      slots := victims.foldl Dictionary.erase store.slots
      evictions := store.evictions + victims.length }

/-- Makes a snapshot the current one of a file. -/
def publish (store : Store) (key : String) (snapshot : Snapshot) : Store :=
  (store.touch key snapshot).evict key

/-! ### Writing -/

/-- What someone who writes to a file has in hand: what is in its slot, and whether it was put there
just now. -/
structure Guard where
  current : Option Snapshot
  published : Bool := false
  deriving Repr

/-- Puts a snapshot into the slot in hand. -/
def Guard.publish {μ : Type → Type} [MonadStateOf Guard μ] (snapshot : Snapshot) : μ Unit :=
  set { current := some snapshot, published := true : Guard }

/-- The store with a slot for a file, which is empty if there was none. -/
def reserve (store : Store) (key : String) : Store :=
  if store.slots.contains key then store
  else { store with slots := store.slots.insert key {} }

/-- The store after the work on a slot. If something was published, that is a use of the file; a slot
in which there is nothing is taken away. -/
def release (store : Store) (key : String) (guard : Guard) : Store :=
  match guard.current with
  | none => { store with slots := store.slots.erase key }
  | some snapshot => if guard.published then store.publish key snapshot else store

/-- Lets someone work with the slot of a file. -/
def access {μ : Type → Type} [Monad μ] {α : Type} (store : Store) (key : String)
    (work : StateT Guard μ α) : μ (α × Store) := do
  let opened := store.reserve key
  let (result, guard) ← work.run { current := opened.peek? key }
  return (result, opened.release key guard)

/-- Lets someone look at the current snapshot of a file and decide what to publish, if anything. -/
def write {α : Type} (store : Store) (key : String)
    (decide : Option Snapshot → α × Option Snapshot) : α × Store :=
  Id.run <| store.access key do
    let (result, published) := decide (← get).current
    published.forM Guard.publish
    return result

/-- Drops a file, and tells whether it was there. -/
def invalidate (store : Store) (key : String) : Bool × Store :=
  ((store.peek? key).isSome, { store with slots := store.slots.erase key })

/-- Drops all files. -/
def clear (store : Store) : Store :=
  { store with slots := {} }

end Store

end Chunking
