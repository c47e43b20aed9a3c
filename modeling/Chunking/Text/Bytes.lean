/-
Places in a text given as counts of bytes of its UTF-8 form. A place inside a
character is no place between characters, so cutting there fails.
-/

namespace Chunking.Text

/-- The characters after the first `count` bytes. -/
def dropBytes (count : Nat) : List Char → Option (List Char)
  | [] => if count = 0 then some [] else none
  | char :: rest =>
    if count = 0 then some (char :: rest)
    else if char.utf8Size ≤ count then dropBytes (count - char.utf8Size) rest
    else none

/-- The characters that make up the first `count` bytes. -/
def takeBytes (count : Nat) : List Char → Option (List Char)
  | [] => if count = 0 then some [] else none
  | char :: rest =>
    if count = 0 then some []
    else if char.utf8Size ≤ count then (takeBytes (count - char.utf8Size) rest).map (char :: ·)
    else none

/-- The part of a text from byte `start` up to byte `stop`. -/
def byteSlice? (start stop : Nat) (text : String) : Option String :=
  if start ≤ stop then
    ((dropBytes start text.toList).bind (takeBytes (stop - start))).map String.ofList
  else none

/-- How many line feeds stand among the first `offset` bytes. -/
def rowAt (offset : Nat) : List Char → Nat
  | [] => 0
  | char :: rest =>
    if offset = 0 then 0
    else (if char = '\n' then 1 else 0) + rowAt (offset - char.utf8Size) rest

/-- Whether the place after `offset` bytes is the first of its row. `fresh` says so of the
place in front of the characters. -/
def startsRow (fresh : Bool) (offset : Nat) : List Char → Bool
  | [] => fresh
  | char :: rest =>
    if offset = 0 then fresh else startsRow (char == '\n') (offset - char.utf8Size) rest

end Chunking.Text
