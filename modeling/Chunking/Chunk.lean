/-
Chunks: the constructs of a file with the ids under which they are followed from
version to version. An id is made of the file, the kind and the name, and a
number where several chunks share these three; the number zero is not written.
-/

import Chunking.Draft

namespace Chunking

open Number

/-- A construct of a file. -/
structure Chunk where
  id : String
  kind : Kind
  name : String
  span : Span
  /-- The digest of the text of the span. -/
  contentHash : String
  confidence : Single
  metadata : Metadata := {}
  deriving Repr

namespace ChunkId

/-- The name as it stands in ids; constructs without a name share one. -/
def displayName (name : String) : String :=
  if name.isEmpty then "anonymous" else name

/-- What the chunks have in common that are numbered together. -/
def key (kind : Kind) (name : String) : String :=
  kind.tag ++ "::" ++ displayName name

/-- The id of the chunk with a given number among those of its file, kind and name. -/
def format (file : String) (kind : Kind) (name : String) (ordinal : Nat) : String :=
  let base := file ++ "::" ++ key kind name
  if ordinal = 0 then base else base ++ "#" ++ toString ordinal

/-- One more than the greatest number that an id can carry. -/
def ordinalLimit : Nat := 0x100000000

/-- The text behind the last number sign, reversed, if there is one. -/
def reversedSuffix? : List Char → Option (List Char)
  | [] => none
  | '#' :: _ => some []
  | char :: rest => (reversedSuffix? rest).map (char :: ·)

/-- The value of a row of digits that starts with the last one. -/
def reversedValue : List Char → Nat
  | [] => 0
  | digit :: rest => digit.toNat - '0'.toNat + 10 * reversedValue rest

/-- The number that an id carries. An id without one counts as the first of its kind; a number
that is too great for an id says nothing. -/
def ordinal? (id : String) : Option Nat :=
  match reversedSuffix? id.toList.reverse with
  | some (digit :: rest) =>
    if (digit :: rest).all Char.isDigit then
      let value := reversedValue (digit :: rest)
      if value < ordinalLimit then some value else none
    else some 0
  | _ => some 0

end ChunkId

/-- What the chunk has in common with those that are numbered together with it. -/
def Chunk.key (chunk : Chunk) : String :=
  ChunkId.key chunk.kind chunk.name

end Chunking
