/-
Merging: chunks that survived an edit and constructs that were parsed again
become one list of chunks. What was parsed again prevails, so a survivor that
overlaps it is dropped. Every new construct takes the id of a dropped chunk of
its kind and name as long as there is one; after that a remembered id may come
back, and otherwise a new one is given out.
-/

import Chunking.Lineage
import Chunking.Settings

namespace Chunking

open Number

/-- A construct parsed again, placed in the new text, scored and with its digest. -/
structure FreshChunk where
  draft : Draft
  contentHash : String
  confidence : Single
  deriving Repr

namespace FreshChunk

def span (fresh : FreshChunk) : Span :=
  fresh.draft.span

def key (fresh : FreshChunk) : String :=
  ChunkId.key fresh.draft.kind fresh.draft.name

def toChunk (fresh : FreshChunk) (id : String) : Chunk :=
  { id
    kind := fresh.draft.kind
    name := fresh.draft.name
    span := fresh.draft.span
    contentHash := fresh.contentHash
    confidence := fresh.confidence
    metadata := fresh.draft.metadata }

/-- Sorts constructs and drops those that overlap an earlier, wider one. -/
def dropOverlapping (fresh : List FreshChunk) : List FreshChunk :=
  Span.dropOverlaps span none (fresh.mergeSort fun left right => left.span.widestFirst right.span)

end FreshChunk

/-- A chunk of the old version that is not carried over. -/
structure Invalidated where
  chunk : Chunk
  /-- About where it would start in the new text. -/
  mappedLine : Nat
  deriving Repr

namespace Invalidated

/-- A chunk that is dropped at the place where it is in the new text. -/
def atOwnPlace (chunk : Chunk) : Invalidated :=
  ⟨chunk, chunk.span.startLine⟩

/-- A chunk with lines of the old text. -/
def ofPrior (changes : List LineChange) (chunk : Chunk) : Invalidated :=
  ⟨chunk, Changes.mapLine changes (chunk.span.startLine - 1) + 1⟩

end Invalidated

namespace Merge

structure Outcome where
  chunks : List Chunk
  lineage : Lineage
  /-- Ids taken over from dropped chunks or brought back. -/
  reused : List String
  /-- Ids given out for constructs without a predecessor. -/
  allocated : List String
  /-- How many survivors were dropped for a construct that overlaps them. -/
  displaced : Nat
  deriving Repr

/-- How ids are matched in one file. -/
structure Policy where
  file : String
  matching : IdMatching
  proximityLines : Nat

/-- The state between two constructs: dropped chunks whose ids are still to be had, in the order
of their lines, and what became of the constructs so far, the latest first. -/
structure Progress where
  unclaimed : List Invalidated
  lineage : Lineage
  live : List String
  chunks : List Chunk := []
  reused : List String := []
  allocated : List String := []

/-- The place among the dropped chunks of the one whose id a construct takes over. -/
def claim? (matching : IdMatching) (unclaimed : List Invalidated) (fresh : FreshChunk) :
    Option (Invalidated × Nat) :=
  let candidates := unclaimed.zipIdx.filter fun (dead, _) => dead.chunk.key == fresh.key
  match matching with
  | .strictNameType => candidates.head?
  | .nameTypeProximity =>
    firstLeast? (fun (dead, _) =>
      ((dead.mappedLine : Int) - fresh.span.startLine).natAbs) candidates

/-- Brings back a remembered id that no live chunk has, if the policy allows it. An id that turns
out to be live is forgotten all the same. -/
def revive (policy : Policy) (progress : Progress) (fresh : FreshChunk) :
    Option String × Lineage :=
  match policy.matching with
  | .strictNameType => (none, progress.lineage)
  | .nameTypeProximity =>
    let (revived, lineage) :=
      progress.lineage.revive fresh.draft.kind fresh.draft.name fresh.span policy.proximityLines
    (revived.filter (!progress.live.contains ·), lineage)

/-- Finds the id of one construct. -/
def step (policy : Policy) (progress : Progress) (fresh : FreshChunk) : Progress :=
  match claim? policy.matching progress.unclaimed fresh with
  | some (dead, place) =>
    { progress with
      unclaimed := progress.unclaimed.eraseIdx place
      live := dead.chunk.id :: progress.live
      chunks := fresh.toChunk dead.chunk.id :: progress.chunks
      reused := dead.chunk.id :: progress.reused }
  | none =>
    match revive policy progress fresh with
    | (some id, lineage) =>
      { progress with
        lineage
        live := id :: progress.live
        chunks := fresh.toChunk id :: progress.chunks
        reused := id :: progress.reused }
    | (none, lineage) =>
      let (id, lineage) :=
        lineage.allocate policy.file fresh.draft.kind fresh.draft.name progress.live
      { progress with
        lineage
        live := id :: progress.live
        chunks := fresh.toChunk id :: progress.chunks
        allocated := id :: progress.allocated }

/-- The sums that are formed to find the id of one construct. -/
def stepSums (policy : Policy) (progress : Progress) (fresh : FreshChunk) : List (String × Nat) :=
  match claim? policy.matching progress.unclaimed fresh with
  | some _ => []
  | none =>
    match revive policy progress fresh with
    | (some _, _) => []
    | (none, lineage) =>
      lineage.counted policy.file fresh.draft.kind fresh.draft.name progress.live

/-- The sums that are formed to find the ids of constructs, one after another. -/
def foldSums (policy : Policy) : List FreshChunk → Progress → List (String × Nat)
  | [], _ => []
  | fresh :: rest, progress =>
    stepSums policy progress fresh ++ foldSums policy rest (step policy progress fresh)

/-- The dropped chunks whose ids nobody took over. -/
def Progress.buried (progress : Progress) : List Invalidated :=
  progress.unclaimed.filter fun dead => !progress.live.contains dead.chunk.id

/-- Remembers the ids of dropped chunks that nobody took over. -/
def buryUnclaimed (progress : Progress) : Lineage :=
  progress.buried.foldl (fun lineage dead => lineage.bury dead.chunk dead.mappedLine)
    progress.lineage

/-! ### Merges as a whole -/

/-- What is put into a merge: survivors, which are placed in the new text already, constructs parsed
again, and the chunks that are not carried over. -/
structure Input where
  policy : Policy
  survivors : List Chunk
  fresh : List FreshChunk
  invalidated : List Invalidated
  lineage : Lineage
  changes : List LineChange

/-- What is known before the first construct gets its id. -/
structure Prepared where
  /-- The constructs that overlap no earlier one. -/
  constructs : List FreshChunk
  /-- The survivors that none of them overlaps. -/
  kept : List Chunk
  displaced : List Chunk
  /-- The chunks of the old version whose ids are to be had. -/
  dropped : List Invalidated
  start : Progress

namespace Input

def prepared (input : Input) : Prepared :=
  let constructs := FreshChunk.dropOverlapping input.fresh
  let isDisplaced (survivor : Chunk) : Bool := constructs.any (·.span.overlaps survivor.span)
  let kept := input.survivors.filter (!isDisplaced ·)
  let displaced := input.survivors.filter isDisplaced
  let dropped := input.invalidated ++ displaced.map Invalidated.atOwnPlace
  let start : Progress :=
    { unclaimed := dropped.mergeSort fun left right => left.mappedLine ≤ right.mappedLine
      lineage := (kept ++ dropped.map Invalidated.chunk).foldl Lineage.observe
        (input.lineage.shift input.changes)
      live := kept.map Chunk.id }
  { constructs, kept, displaced, dropped, start }

def outcome (input : Input) : Outcome :=
  let prepared := input.prepared
  let progress := prepared.constructs.foldl (step input.policy) prepared.start
  { chunks := (prepared.kept ++ progress.chunks.reverse).mergeSort fun left right =>
      left.span.startLine ≤ right.span.startLine
    lineage := buryUnclaimed progress
    reused := progress.reused.reverse
    allocated := progress.allocated.reverse
    displaced := prepared.displaced.length }

/-- All sums of a merge: for the ids of the old chunks, for the constructs, and for the ids that are
remembered in the end. -/
def sums (input : Input) : List (String × Nat) :=
  let prepared := input.prepared
  let progress := prepared.constructs.foldl (step input.policy) prepared.start
  (prepared.kept ++ prepared.dropped.map Invalidated.chunk).flatMap Lineage.noted
    ++ foldSums input.policy prepared.constructs prepared.start
    ++ progress.buried.flatMap fun dead => Lineage.noted dead.chunk

/-- Whether a merge cannot be carried out, because one of its sums does not fit. -/
def overflows (input : Input) : Bool :=
  Lineage.overflow input.sums

end Input

def merge (policy : Policy) (survivors : List Chunk) (fresh : List FreshChunk)
    (invalidated : List Invalidated) (lineage : Lineage) (changes : List LineChange) : Outcome :=
  Input.outcome { policy, survivors, fresh, invalidated, lineage, changes }

end Merge

end Chunking
