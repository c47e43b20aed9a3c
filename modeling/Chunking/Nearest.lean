/-
Choosing the item with the least measure. Of several the first in the list is
taken, so the choice depends on the order only where the measures are equal.
-/

namespace Chunking

/-- The first item of a list at which a measure is least. -/
def firstLeast? {α : Type} (measure : α → Nat) : List α → Option α
  | [] => none
  | item :: rest =>
    match firstLeast? measure rest with
    | none => some item
    | some other => if measure other < measure item then some other else some item

end Chunking
