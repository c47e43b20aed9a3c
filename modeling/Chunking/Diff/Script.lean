/-
The comparison of two token lists. Common tokens at the beginning and at the end
are kept; what is left between them is cut in the middle and both parts are
compared in turn. If one side is used up, the other is deleted or inserted.
When the time is up before a middle is found, everything left is deleted and
inserted, which is coarser but still leads from one list to the other. The time
may be up at any point, so some parts may be compared well and others coarsely.
-/

import Chunking.Diff.Middle

namespace Chunking.Diff

/-- A list with the operation, unless it concerns no tokens. -/
def unlessEmpty (operation : Operation) : List Operation :=
  if operation.isEmpty then [] else [operation]

/-- Compares `old` and `new`, which stand at `oldAt` and `newAt` in the whole lists, after the deadline
has been asked for `asked` times. The fuel bounds how often a part is cut in two. -/
def compareFrom (deadline : Deadline) :
    (fuel asked oldAt newAt : Nat) → (old new : List String) → List Operation × Nat
  | 0, asked, oldAt, newAt, old, new =>
    (unlessEmpty (.remove oldAt newAt old.length) ++ unlessEmpty (.add oldAt newAt new.length), asked)
  | fuel + 1, asked, oldAt, newAt, old, new =>
    let before := commonStart old new
    let oldAt' := oldAt + before
    let newAt' := newAt + before
    let oldRest := old.drop before
    let newRest := new.drop before
    let behind := commonEnd oldRest newRest
    let oldPart := oldRest.take (oldRest.length - behind)
    let newPart := newRest.take (newRest.length - behind)
    let (between, asked) :=
      match oldPart, newPart with
      | [], [] => ([], asked)
      | _ :: _, [] => ([Operation.remove oldAt' newAt' oldPart.length], asked)
      | [], _ :: _ => ([Operation.add oldAt' newAt' newPart.length], asked)
      | _ :: _, _ :: _ =>
        match (Grid.mk oldPart newPart).middle? deadline asked with
        | (some (x, y), asked) =>
          let (first, asked) :=
            compareFrom deadline fuel asked oldAt' newAt' (oldPart.take x) (newPart.take y)
          let (second, asked) :=
            compareFrom deadline fuel asked (oldAt' + x) (newAt' + y) (oldPart.drop x) (newPart.drop y)
          (first ++ second, asked)
        | (none, asked) =>
          ([Operation.remove oldAt' newAt' oldPart.length,
            Operation.add oldAt' newAt' newPart.length], asked)
    (unlessEmpty (.keep oldAt newAt before) ++ between
      ++ unlessEmpty (.keep (oldAt' + oldPart.length) (newAt' + newPart.length) behind), asked)

/-- The operations that lead from one token list to another. -/
def compare (deadline : Deadline) (old new : List String) : List Operation :=
  (compareFrom deadline (old.length + new.length + 1) 0 0 0 old new).1

end Chunking.Diff
