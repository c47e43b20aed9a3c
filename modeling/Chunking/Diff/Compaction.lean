/-
Compaction of a comparison. An insertion can slide along tokens that are kept,
as long as the tokens that it passes equal its own. Every deletion and then
every insertion is slid as far up as it goes and then as far down as it goes,
and joined with those of its tag that it meets. What then stands between two
kept stretches is one change.

The list of operations is held open at the one that is being moved, with the
operations before it nearest first.
-/

import Chunking.Change
import Chunking.Diff.Operation

namespace Chunking.Diff

/-- A list of operations, opened at one of them. -/
structure Opened where
  before : List Operation
  here : Operation
  behind : List Operation

/-- The token lists that are compared. -/
structure Sides where
  old : List String
  new : List String

namespace Sides

def oldTokens (sides : Sides) (operation : Operation) : List String :=
  stretch sides.old operation.oldStart operation.oldSize

def newTokens (sides : Sides) (operation : Operation) : List String :=
  stretch sides.new operation.newStart operation.newSize

/-- How far an operation can slide up along the kept stretch before it. -/
def slackUp (sides : Sides) (kept moving : Operation) : Nat :=
  commonEnd (sides.oldTokens kept) (sides.newTokens moving)

/-- How far an operation can slide down along the kept stretch behind it. -/
def slackDown (sides : Sides) (kept moving : Operation) : Nat :=
  commonStart (sides.oldTokens kept) (sides.newTokens moving)

/-! ### Sliding up -/

/-- Lengthens the kept stretch behind at its beginning, or makes one. -/
def keepBehind (count : Nat) (kept moving : Operation) : List Operation → List Operation
  | next :: rest =>
    if next.isKeep then (next.moveUp count).lengthen count :: rest
    else .keep (kept.oldStop - count) (moving.newStop - count) count :: next :: rest
  | [] => [.keep (kept.oldStop - count) (moving.newStop - count) count]

def slideUp (sides : Sides) : (fuel : Nat) → Opened → Opened
  | 0, opened => opened
  | fuel + 1, opened =>
    match opened.before with
    | [] => opened
    | previous :: earlier =>
      if previous.isKeep then
        let slack := sides.slackUp previous opened.here
        if slack > 0 then
          let left := previous.shorten slack
          slideUp sides fuel
            { before := if left.isEmpty then earlier else left :: earlier
              here := opened.here.moveUp slack
              behind := keepBehind slack previous opened.here opened.behind }
        else if previous.isEmpty then slideUp sides fuel { opened with before := earlier }
        else opened
      else if previous.tag = opened.here.tag then
        slideUp sides fuel { opened with before := earlier, here := previous.absorb opened.here }
      else
        slideUp sides fuel { opened with before := earlier, behind := previous :: opened.behind }

/-! ### Sliding down -/

/-- Lengthens the kept stretch before at its end, or makes one. -/
def keepBefore (count : Nat) (kept moving : Operation) : List Operation → List Operation
  | previous :: earlier =>
    if previous.isKeep then previous.lengthen count :: earlier
    else .keep kept.oldStart moving.newStart count :: previous :: earlier
  | [] => [.keep kept.oldStart moving.newStart count]

def slideDown (sides : Sides) : (fuel : Nat) → Opened → Opened
  | 0, opened => opened
  | fuel + 1, opened =>
    match opened.behind with
    | [] => opened
    | next :: later =>
      if next.isKeep then
        let slack := sides.slackDown next opened.here
        if slack > 0 then
          let left := (next.moveDown slack).shorten slack
          slideDown sides fuel
            { before := keepBefore slack next opened.here opened.before
              here := opened.here.moveDown slack
              behind := if left.isEmpty then later else left :: later }
        else if next.isEmpty then slideDown sides fuel { opened with behind := later }
        else opened
      else if next.tag = opened.here.tag then
        slideDown sides fuel { opened with here := opened.here.absorb next, behind := later }
      else
        slideDown sides fuel { opened with before := next :: opened.before, behind := later }

/-! ### All operations of one tag -/

/-- A bound on the steps of a slide: each one passes an operation or tokens of one. -/
def slideFuel (operations : List Operation) : Nat :=
  operations.length + (operations.map Operation.oldSize).foldr (· + ·) 0 + 1

/-- Slides an operation up and then down. -/
def settleOne (sides : Sides) (opened : Opened) : Opened :=
  let raised := sides.slideUp (slideFuel opened.before) opened
  sides.slideDown (slideFuel raised.behind) raised

def settleTag (sides : Sides) (tag : Tag) : (fuel : Nat) → (before behind : List Operation) →
    List Operation
  | 0, before, behind => before.reverse ++ behind
  | _ + 1, before, [] => before.reverse
  | fuel + 1, before, operation :: rest =>
    if operation.tag = tag then
      let settled := sides.settleOne ⟨before, operation, rest⟩
      settleTag sides tag fuel (settled.here :: settled.before) settled.behind
    else settleTag sides tag fuel (operation :: before) rest

/-- Slides first all deletions and then all insertions to their places. -/
def compact (sides : Sides) (operations : List Operation) : List Operation :=
  let size := operations.length + sides.old.length + sides.new.length + 1
  let fuel := size * size
  let deleted := sides.settleTag .delete fuel [] operations
  sides.settleTag .insert fuel [] deleted

end Sides

/-! ### Changes -/

/-- The deletions and insertions that were met since the last kept stretch, joined by tag. -/
structure Pending where
  deletion : Option Operation := none
  insertion : Option Operation := none

namespace Pending

def join (pending : Option Operation) (operation : Operation) : Option Operation :=
  some (pending.elim operation (·.absorb operation))

def take (pending : Pending) (operation : Operation) : Pending :=
  match operation.tag with
  | .delete => { pending with deletion := join pending.deletion operation }
  | .insert => { pending with insertion := join pending.insertion operation }
  | .equal => pending

/-- The change that the pending operations amount to. -/
def flush (pending : Pending) : List LineChange :=
  match pending.deletion, pending.insertion with
  | none, none => []
  | some deletion, none =>
    [⟨⟨deletion.oldStart, deletion.oldStop⟩, ⟨deletion.newStart, deletion.newStart⟩⟩]
  | none, some insertion =>
    [⟨⟨insertion.oldStart, insertion.oldStart⟩, ⟨insertion.newStart, insertion.newStop⟩⟩]
  | some deletion, some insertion =>
    [⟨⟨deletion.oldStart, deletion.oldStop⟩, ⟨insertion.newStart, insertion.newStop⟩⟩]

end Pending

/-- Gathers everything between two kept stretches into one change. -/
def changesFrom (pending : Pending) : List Operation → List LineChange
  | [] => pending.flush
  | operation :: rest =>
    if operation.isKeep then pending.flush ++ changesFrom {} rest
    else changesFrom (pending.take operation) rest

/-- Joins each change with the one before it where they touch in both texts. -/
def joinTouching : List LineChange → List LineChange
  | [] => []
  | change :: rest =>
    match joinTouching rest with
    | [] => [change]
    | next :: others =>
      if change.old.stop = next.old.start ∧ change.new.stop = next.new.start then
        ⟨⟨change.old.start, next.old.stop⟩, ⟨change.new.start, next.new.stop⟩⟩ :: others
      else change :: next :: others

end Chunking.Diff
