/-
The middle of a comparison. Two searches run towards each other over the grid of
old and new tokens, one from the beginning and one from the end. Each keeps for
every diagonal how far it has come with a given number of edits, and follows
common tokens as far as they go. Where the two meet lies a point that some
shortest edit passes through, and the comparison can be cut in two there. With
every further edit it is asked whether the time is up, and if it is, there is no
middle.

A diagonal is the number of old tokens passed less the number of new tokens
passed. The reach of a diagonal is the number of old tokens passed on it.
-/

import Chunking.Diff.Operation

namespace Chunking.Diff

/-! ### Time -/

/-- The nanoseconds since a comparison began, each time that someone looks at the clock. -/
abbrev Clock := (looks : Nat) → Nat

/-- A clock that goes on by one nanosecond from look to look. -/
def Clock.steady : Clock :=
  fun looks => looks + 1

/-- Whether the time of a comparison is up, each time that someone asks. -/
structure Deadline where
  isOver : (asked : Nat) → Bool

namespace Deadline

/-- The time is never up. -/
def ample : Deadline :=
  ⟨fun _ => false⟩

/-- The time is up as soon as the clock shows more than a number of milliseconds. -/
def ofTimeout (milliseconds : Nat) (clock : Clock) : Deadline :=
  ⟨fun asked => 1000000 * milliseconds < clock asked⟩

end Deadline

/-! ### Diagonals -/

/-- For each diagonal from `-radius` to `radius`, how far a search has come. -/
structure Reach where
  radius : Nat
  values : Array Int

namespace Reach

def start (radius : Nat) : Reach :=
  ⟨radius, Array.replicate (2 * radius + 1) 0⟩

def get (reach : Reach) (diagonal : Int) : Int :=
  reach.values.getD (diagonal + reach.radius).toNat 0

def set (reach : Reach) (diagonal value : Int) : Reach :=
  { reach with values := reach.values.setIfInBounds (diagonal + reach.radius).toNat value }

/-- Where a search with `edits` edits enters a diagonal: from the neighbour that is farther. -/
def enter (reach : Reach) (edits diagonal : Int) : Int :=
  let below := reach.get (diagonal - 1)
  let above := reach.get (diagonal + 1)
  if diagonal = -edits ∨ (diagonal ≠ edits ∧ below < above) then above else below + 1

end Reach

/-- The diagonals that a search reaches with exactly `edits` edits, from the highest down. -/
def diagonals (edits : Nat) : List Int :=
  (List.range (edits + 1)).map fun (step : Nat) => (edits : Int) - 2 * (step : Int)

/-! ### Searching -/

/-- The two sides of a comparison that is to be cut. -/
structure Grid where
  old : List String
  new : List String

namespace Grid

def width (grid : Grid) : Int := grid.old.length

def height (grid : Grid) : Int := grid.new.length

/-- The diagonal of the far corner. -/
def drift (grid : Grid) : Int := grid.width - grid.height

/-- A point of the grid, as old and new tokens passed. -/
structure Point where
  old : Int
  new : Int

/-- Whether both a token to keep and one to compare it with are left at a point. -/
def isInside (grid : Grid) (point : Point) : Bool :=
  point.old < grid.width && 0 ≤ point.new && point.new < grid.height

/-- The number of common tokens behind a point. -/
def runForward (grid : Grid) (point : Point) : Nat :=
  if grid.isInside point then
    commonStart (grid.old.drop point.old.toNat) (grid.new.drop point.new.toNat)
  else 0

/-- The number of common tokens before a point that is counted from the far corner. -/
def runBackward (grid : Grid) (point : Point) : Nat :=
  if grid.isInside point then
    commonEnd (grid.old.take (grid.width - point.old).toNat)
      (grid.new.take (grid.height - point.new).toNat)
  else 0

/-- Takes the forward search one edit further on the given diagonals. -/
def stepForward (grid : Grid) (edits : Nat) (back : Reach) :
    List Int → Reach → Except Point Reach
  | [], ahead => .ok ahead
  | diagonal :: rest, ahead =>
    let entry := ahead.enter edits diagonal
    let point : Point := ⟨entry, entry - diagonal⟩
    let reached := entry + grid.runForward point
    let opposite := diagonal - grid.drift
    if grid.drift % 2 ≠ 0 ∧ (opposite.natAbs : Int) ≤ edits - 1
        ∧ grid.width ≤ reached + back.get (-opposite) then
      .error point
    else stepForward grid edits back rest (ahead.set diagonal reached)

/-- Takes the backward search one edit further on the given diagonals. -/
def stepBackward (grid : Grid) (edits : Nat) (ahead : Reach) :
    List Int → Reach → Except Point Reach
  | [], back => .ok back
  | diagonal :: rest, back =>
    let entry := back.enter edits diagonal
    let run := grid.runBackward ⟨entry, entry - diagonal⟩
    let reached := entry + run
    let opposite := diagonal - grid.drift
    if grid.drift % 2 = 0 ∧ (opposite.natAbs : Int) ≤ edits
        ∧ grid.width ≤ reached + ahead.get (-opposite) then
      .error ⟨grid.width - reached, grid.height - (reached - diagonal)⟩
    else stepBackward grid edits ahead rest (back.set diagonal reached)

/-- Runs both searches with more and more edits until they meet or the time is up. How often the
deadline has been asked for is counted on. -/
def search (grid : Grid) (deadline : Deadline) :
    (fuel edits asked : Nat) → (ahead back : Reach) → Option Point × Nat
  | 0, _, asked, _, _ => (none, asked)
  | fuel + 1, edits, asked, ahead, back =>
    if deadline.isOver asked then (none, asked + 1)
    else
      match grid.stepForward edits back (diagonals edits) ahead with
      | .error point => (some point, asked + 1)
      | .ok ahead =>
        match grid.stepBackward edits ahead (diagonals edits) back with
        | .error point => (some point, asked + 1)
        | .ok back => search grid deadline fuel (edits + 1) (asked + 1) ahead back

/-- A point that lies in the grid, as counts of old and new tokens before it. -/
def inside? (grid : Grid) (point : Point) : Option (Nat × Nat) :=
  if 0 ≤ point.old ∧ point.old ≤ grid.width ∧ 0 ≤ point.new ∧ point.new ≤ grid.height then
    some (point.old.toNat, point.new.toNat)
  else none

/-- A point at which the comparison can be cut, if there is time to find one. -/
def middle? (grid : Grid) (deadline : Deadline) (asked : Nat) : Option (Nat × Nat) × Nat :=
  let rounds := (grid.old.length + grid.new.length + 1) / 2 + 1
  let reach := Reach.start (rounds + 1)
  let (point, asked) := grid.search deadline rounds 0 asked reach reach
  (point.bind grid.inside?, asked)

end Grid

end Chunking.Diff
