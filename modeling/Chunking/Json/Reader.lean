/-
Reading JSON text. The reader follows the grammar with one character of
lookahead. It counts two things down: how deeply values may still nest, which
is a limit of the format as it is used here, and how many steps it may still
take, which the length of the text bounds because every two steps use up a
character.

A text may be read for only some of its members. What the others hold is passed
over. It has to be well written, but it may nest as deeply as it likes.
-/

import Chunking.Json.Token

namespace Chunking.Json

open Number

/-! ### Shapes -/

/-- Which parts of a value are taken when it is read. -/
inductive Shape where
  | all
  /-- Every item of an array, each in the same shape. -/
  | items (shape : Shape)
  /-- The members of an object with the given names, or the items of an array in their place. -/
  | members (shapes : List (String × Shape))
  deriving Repr

namespace Shape

/-- The shape of the first item of an array. -/
def head : Shape → Shape
  | .items shape => shape
  | .members ((_, shape) :: _) => shape
  | _ => .all

/-- The shape of an array without its first item. -/
def tail : Shape → Shape
  | .members (_ :: shapes) => .members shapes
  | shape => shape

/-- The shape of a member of an object, if the member is taken. -/
def member? (name : String) : Shape → Option Shape
  | .members shapes => shapes.lookup name
  | _ => some .all

end Shape

/-! ### Passing over -/

/-- What encloses the place that has been reached. -/
inductive Enclosure where
  | array
  | object
  deriving DecidableEq, Repr

/-- What is to be passed over next: a value, a member of an object, or what follows a value. -/
inductive Ahead where
  | value
  | member
  | rest
  deriving DecidableEq, Repr

/-- Passes over what is ahead and all that is left of the values around it. -/
def pass : (fuel : Nat) → Ahead → List Enclosure → List Char → Option (List Char)
  | 0, _, _, _ => none
  | fuel + 1, .value, enclosing, chars =>
    match chars with
    | 'n' :: 'u' :: 'l' :: 'l' :: after => pass fuel .rest enclosing after
    | 't' :: 'r' :: 'u' :: 'e' :: after => pass fuel .rest enclosing after
    | 'f' :: 'a' :: 'l' :: 's' :: 'e' :: after => pass fuel .rest enclosing after
    | '"' :: rest =>
      match passString rest with
      | some after => pass fuel .rest enclosing after
      | none => none
    | '[' :: rest =>
      match skipSpace rest with
      | ']' :: after => pass fuel .rest enclosing after
      | inside => pass fuel .value (.array :: enclosing) inside
    | '\x7b' :: rest =>
      match skipSpace rest with
      | '\x7d' :: after => pass fuel .rest enclosing after
      | inside => pass fuel .member (.object :: enclosing) inside
    | chars =>
      match scanNumber chars with
      | some (_, after) => pass fuel .rest enclosing after
      | none => none
  | fuel + 1, .member, enclosing, chars =>
    match chars with
    | '"' :: rest =>
      match (passString rest).map skipSpace with
      | some (':' :: rest) => pass fuel .value enclosing (skipSpace rest)
      | _ => none
    | _ => none
  | _ + 1, .rest, [], chars => some chars
  | fuel + 1, .rest, .array :: outer, chars =>
    match skipSpace chars with
    | ',' :: rest => pass fuel .value (.array :: outer) (skipSpace rest)
    | ']' :: after => pass fuel .rest outer after
    | _ => none
  | fuel + 1, .rest, .object :: outer, chars =>
    match skipSpace chars with
    | ',' :: rest => pass fuel .member (.object :: outer) (skipSpace rest)
    | '\x7d' :: after => pass fuel .rest outer after
    | _ => none

/-! ### Values -/

mutual

/-- Reads a value that begins with the first character. -/
def readValue : (fuel depth : Nat) → Shape → List Char → Option (Json × List Char)
  | 0, _, _, _ => none
  | fuel + 1, depth, shape, chars =>
    match chars with
    | 'n' :: 'u' :: 'l' :: 'l' :: rest => some (.null, rest)
    | 't' :: 'r' :: 'u' :: 'e' :: rest => some (.bool true, rest)
    | 'f' :: 'a' :: 'l' :: 's' :: 'e' :: rest => some (.bool false, rest)
    | '"' :: rest => (readString rest).map fun (text, after) => (.string (String.ofList text), after)
    | '[' :: rest =>
      if depth = 0 then none
      else
        match skipSpace rest with
        | ']' :: after => some (.array [], after)
        | inside =>
          (readItems fuel (depth - 1) shape inside).map fun (items, after) => (.array items, after)
    | '\x7b' :: rest =>
      if depth = 0 then none
      else
        match skipSpace rest with
        | '\x7d' :: after => some (.object [], after)
        | inside =>
          (readMembers fuel (depth - 1) shape inside).map fun (members, after) =>
            (.object members, after)
    | chars => (readNumber chars).map fun (numeral, after) => (.number numeral, after)

/-- Reads items up to the closing bracket; `shape` is that of the array of these items. -/
def readItems : (fuel depth : Nat) → Shape → List Char → Option (List Json × List Char)
  | 0, _, _, _ => none
  | fuel + 1, depth, shape, chars => do
    let (item, chars) ← readValue fuel depth shape.head chars
    match skipSpace chars with
    | ']' :: after => some ([item], after)
    | ',' :: rest =>
      let (items, after) ← readItems fuel depth shape.tail (skipSpace rest)
      some (item :: items, after)
    | _ => none

/-- Reads members up to the closing brace, without those that are passed over. -/
def readMembers : (fuel depth : Nat) → Shape → List Char →
    Option (List (String × Json) × List Char)
  | 0, _, _, _ => none
  | fuel + 1, depth, shape, chars =>
    match chars with
    | '"' :: rest => do
      let (name, chars) ← readString rest
      match skipSpace chars with
      | ':' :: rest =>
        let name := String.ofList name
        let inside := skipSpace rest
        let (member, chars) ← match shape.member? name with
          | some shape =>
            (readValue fuel depth shape inside).map fun (value, after) => ([(name, value)], after)
          | none => (pass fuel .value [] inside).map fun after => ([], after)
        match skipSpace chars with
        | '\x7d' :: after => some (member, after)
        | ',' :: rest =>
          let (members, after) ← readMembers fuel depth shape (skipSpace rest)
          some (member ++ members, after)
        | _ => none
      | _ => none
    | _ => none

end

/-- How many arrays and objects may stand inside each other. -/
def nestingLimit : Nat := 127

/-- What a text says in a shape, with nothing but space around it. -/
def parseIn? (shape : Shape) (text : String) : Option Json :=
  let chars := skipSpace text.toList
  match readValue (2 * chars.length + 2) nestingLimit shape chars with
  | some (json, rest) => if (skipSpace rest).isEmpty then some json else none
  | none => none

/-- The value written by a text. -/
def parse? (text : String) : Option Json :=
  parseIn? .all text

end Chunking.Json
