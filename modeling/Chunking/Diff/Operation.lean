/-
Tokens and operations of a comparison. A text is cut into tokens after each
line feed, after each carriage return with a line feed, and after each carriage
return that stands alone, so a lone carriage return ends a token although it
does not end a line of the line index. An operation says that a stretch of the
old tokens is kept, that one is deleted, or that a stretch of new tokens is
inserted; it carries its place in both token lists.
-/

namespace Chunking.Diff

/-- Cuts characters behind each line break. -/
def cutTokens : List Char → List (List Char)
  | [] => []
  | '\r' :: '\n' :: rest => ['\r', '\n'] :: cutTokens rest
  | char :: rest =>
    if char = '\n' ∨ char = '\r' then [char] :: cutTokens rest
    else
      match cutTokens rest with
      | [] => [[char]]
      | token :: tokens => (char :: token) :: tokens

/-- The tokens of a text, each with its line break. -/
def tokens (text : String) : List String :=
  (cutTokens text.toList).map String.ofList

inductive Tag where
  | equal
  | delete
  | insert
  deriving DecidableEq, Repr

/-- An operation on the old tokens from `oldStart` and the new tokens from `newStart`. -/
structure Operation where
  tag : Tag
  oldStart : Nat
  newStart : Nat
  oldSize : Nat
  newSize : Nat
  deriving DecidableEq, Repr

namespace Operation

def keep (oldStart newStart size : Nat) : Operation :=
  ⟨.equal, oldStart, newStart, size, size⟩

def remove (oldStart newStart size : Nat) : Operation :=
  ⟨.delete, oldStart, newStart, size, 0⟩

def add (oldStart newStart size : Nat) : Operation :=
  ⟨.insert, oldStart, newStart, 0, size⟩

def isKeep (operation : Operation) : Bool :=
  operation.tag = .equal

def oldStop (operation : Operation) : Nat :=
  operation.oldStart + operation.oldSize

def newStop (operation : Operation) : Nat :=
  operation.newStart + operation.newSize

def isEmpty (operation : Operation) : Bool :=
  operation.oldSize == 0 && operation.newSize == 0

/-- The operation moved towards the beginning by a number of tokens on both sides. -/
def moveUp (operation : Operation) (count : Nat) : Operation :=
  { operation with
    oldStart := operation.oldStart - count
    newStart := operation.newStart - count }

/-- The operation moved towards the end by a number of tokens on both sides. -/
def moveDown (operation : Operation) (count : Nat) : Operation :=
  { operation with
    oldStart := operation.oldStart + count
    newStart := operation.newStart + count }

/-- The operation with more tokens at its end, on the sides that its tag has. -/
def lengthen (operation : Operation) (count : Nat) : Operation :=
  { operation with
    oldSize := if operation.tag = .insert then operation.oldSize else operation.oldSize + count
    newSize := if operation.tag = .delete then operation.newSize else operation.newSize + count }

/-- The operation with fewer tokens at its end, on the sides that its tag has. -/
def shorten (operation : Operation) (count : Nat) : Operation :=
  { operation with
    oldSize := operation.oldSize - count
    newSize := operation.newSize - count }

/-- The operation joined with one of the same tag behind it. -/
def absorb (operation other : Operation) : Operation :=
  { operation with
    oldSize := operation.oldSize + other.oldSize
    newSize := operation.newSize + other.newSize }

end Operation

/-! ### Common ends -/

/-- How many items two lists have in common at their beginning. -/
def commonStart : List String → List String → Nat
  | left :: lefts, right :: rights => if left = right then commonStart lefts rights + 1 else 0
  | _, _ => 0

/-- How many items two lists have in common at their end. -/
def commonEnd (left right : List String) : Nat :=
  commonStart left.reverse right.reverse

/-- The part of a list from `start` with `size` items. -/
def stretch (items : List String) (start size : Nat) : List String :=
  (items.drop start).take size

end Chunking.Diff
