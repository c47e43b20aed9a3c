/-
The lineage of the ids of one file. It remembers for every kind and name the
number that comes next, so that an id is never given out twice, and the ids that
were dropped last, so that a construct which comes back close to its old place
can have its old id again.

Numbers are kept in 32 bits. They are natural numbers here, and the sums that are
formed of them are listed beside each operation: the program stops where one of
them does not fit, and as long as all of them do, nothing tells the two apart.
-/

import Chunking.Change
import Chunking.Chunk
import Chunking.Nearest

namespace Chunking

/-- An id that no chunk has any more. -/
structure Tombstone where
  id : String
  kind : Kind
  name : String
  /-- The last line at which the chunk started, moved along with later edits. -/
  line : Nat
  deriving DecidableEq, Repr

/-- What is known about ids given out so far. -/
structure Lineage where
  /-- The next number for each kind and name. -/
  ordinals : Dictionary Nat := {}
  /-- Dropped ids, the latest at the end. -/
  tombstones : List Tombstone := []
  deriving DecidableEq, Repr

namespace Lineage

instance : Inhabited Lineage := ⟨{}⟩

/-- How many dropped ids are remembered. -/
def tombstoneLimit : Nat := 64

/-! ### Numbering -/

/-- Whether one of several sums does not fit. -/
def overflow (sums : List (String × Nat)) : Bool :=
  sums.any fun (_, sum) => ChunkId.ordinalLimit ≤ sum

/-- The first number from `ordinal` on that is not taken, of at most `tries` numbers. -/
def firstFree (isTaken : Nat → Bool) : (tries : Nat) → (ordinal : Nat) → Nat
  | 0, ordinal => ordinal
  | tries + 1, ordinal =>
    if isTaken ordinal then firstFree isTaken tries (ordinal + 1) else ordinal

/-- The sums that are formed while numbers are tried: each one that is tried is counted on from,
whether it is taken or not. -/
def tried (isTaken : Nat → Bool) : (tries : Nat) → (ordinal : Nat) → List Nat
  | 0, ordinal => [ordinal + 1]
  | tries + 1, ordinal =>
    (ordinal + 1) :: if isTaken ordinal then tried isTaken tries (ordinal + 1) else []

def nextOrdinal (lineage : Lineage) (key : String) : Nat :=
  (lineage.ordinals.get? key).getD 0

/-- Gives out an id that was never used and that no live chunk has. As many tries as there are
live ids are enough, since different numbers make different ids. -/
def allocate (lineage : Lineage) (file : String) (kind : Kind) (name : String)
    (live : List String) : String × Lineage :=
  let key := ChunkId.key kind name
  let ordinal := firstFree (fun ordinal => live.contains (ChunkId.format file kind name ordinal))
    live.length (lineage.nextOrdinal key)
  (ChunkId.format file kind name ordinal,
    { lineage with ordinals := lineage.ordinals.insert key (ordinal + 1) })

/-- The sums that are formed when an id is given out, with the key that they are formed for. -/
def counted (lineage : Lineage) (file : String) (kind : Kind) (name : String)
    (live : List String) : List (String × Nat) :=
  let key := ChunkId.key kind name
  (tried (fun ordinal => live.contains (ChunkId.format file kind name ordinal)) live.length
    (lineage.nextOrdinal key)).map (key, ·)

/-- Takes note of an id in use, so that it is not given out again. -/
def observe (lineage : Lineage) (chunk : Chunk) : Lineage :=
  match ChunkId.ordinal? chunk.id with
  | none => lineage
  | some ordinal =>
    let next := max (lineage.nextOrdinal chunk.key) (ordinal + 1)
    { lineage with ordinals := lineage.ordinals.insert chunk.key next }

/-- The sum that is formed when an id in use is noted: the number behind the one that it carries. -/
def noted (chunk : Chunk) : List (String × Nat) :=
  (ChunkId.ordinal? chunk.id).toList.map fun ordinal => (chunk.key, ordinal + 1)

/-! ### Dropped ids -/

/-- Remembers the id of a dropped chunk, and forgets the oldest one if there are too many. -/
def bury (lineage : Lineage) (chunk : Chunk) (line : Nat) : Lineage :=
  let observed := lineage.observe chunk
  let others := observed.tombstones.filter (·.id != chunk.id)
  let all := others ++ [⟨chunk.id, chunk.kind, chunk.name, line⟩]
  { observed with tombstones := all.drop (all.length - tombstoneLimit) }

/-- The place of the dropped id to bring back for a construct: the nearest one of its kind and
name within a distance, and of several the latest. -/
def revivable? (lineage : Lineage) (kind : Kind) (name : String) (span : Span)
    (distance : Nat) : Option (Tombstone × Nat) :=
  let candidates := lineage.tombstones.zipIdx.filter fun (tombstone, _) =>
    tombstone.kind = kind && tombstone.name = name && span.distanceTo tombstone.line ≤ distance
  firstLeast? (fun (tombstone, _) => span.distanceTo tombstone.line) candidates.reverse

/-- Brings back a dropped id for a construct, if there is one near to it. -/
def revive (lineage : Lineage) (kind : Kind) (name : String) (span : Span) (distance : Nat) :
    Option String × Lineage :=
  match lineage.revivable? kind name span distance with
  | none => (none, lineage)
  | some (tombstone, place) =>
    (some tombstone.id, { lineage with tombstones := lineage.tombstones.eraseIdx place })

/-- Moves the remembered lines along with an edit. -/
def shift (lineage : Lineage) (changes : List LineChange) : Lineage :=
  { lineage with
    tombstones := lineage.tombstones.map fun tombstone =>
      { tombstone with line := Changes.mapLine changes (tombstone.line - 1) + 1 } }

end Lineage

end Chunking
