/-
JSON values. Numbers keep the kind they have in a program: whole numbers, and
binary numbers of two precisions, because the two are written with different
numbers of digits. The members of an object stay in the order in which they
are given; the canonical form of a value sorts them by name at every level and
keeps the last of several members with one name.
-/

import Chunking.Dictionary
import Chunking.Number.Binary

namespace Chunking

open Number

/-- A number inside a JSON value. -/
inductive Json.Numeral where
  | integer (value : Int)
  | single (value : Single)
  | double (value : Double)
  deriving DecidableEq, Repr

inductive Json where
  | null
  | bool (value : Bool)
  | number (value : Json.Numeral)
  | string (value : String)
  | array (items : List Json)
  | object (members : List (String × Json))
  deriving Repr, Inhabited

namespace Json

def nat (value : Nat) : Json :=
  .number (.integer value)

def strings (values : List String) : Json :=
  .array (values.map .string)

/-- A text, or nothing. -/
def stringOrNull (value : Option String) : Json :=
  value.elim .null .string

/-! ### Canonical form -/

mutual

/-- The value with the members of every object sorted by name. -/
def canonical : Json → Json
  | .array items => .array (canonicalItems items)
  | .object members => .object (Dictionary.ofList (canonicalMembers members)).entries
  | .null => .null
  | .bool value => .bool value
  | .number value => .number value
  | .string value => .string value

def canonicalItems : List Json → List Json
  | [] => []
  | item :: rest => item.canonical :: canonicalItems rest

def canonicalMembers : List (String × Json) → List (String × Json)
  | [] => []
  | (name, value) :: rest => (name, value.canonical) :: canonicalMembers rest

end

/-! ### Reading parts -/

/-- The value of the first member with the given name. -/
def field? (name : String) : Json → Option Json
  | .object members => members.lookup name
  | _ => none

def asString? : Json → Option String
  | .string value => some value
  | _ => none

def asBool? : Json → Option Bool
  | .bool value => some value
  | _ => none

/-- A whole number that is not negative. -/
def asNat? : Json → Option Nat
  | .number (.integer (.ofNat value)) => some value
  | _ => none

/-- A number rounded to single precision. -/
def asSingle? : Json → Option Single
  | .number (.integer value) => some (Binary.ofFraction (decide (value < 0)) value.natAbs 1)
  | .number (.single value) => some value
  | .number (.double value) => some value.convert
  | _ => none

def asArray? : Json → Option (List Json)
  | .array items => some items
  | _ => none

/-- An array of which every item can be read. -/
def asListOf? {α : Type} (read : Json → Option α) (json : Json) : Option (List α) :=
  json.asArray?.bind (·.mapM read)

/-- One of several names: the name itself, or an object that gives it the value null. -/
def asTag? : Json → Option String
  | .string name => some name
  | .object [(name, .null)] => some name
  | _ => none

/-! ### Records -/

/-- The value of a member that may occur at most once; `none` outside means that it is repeated. -/
def uniqueMember? (members : List (String × Json)) (name : String) : Option (Option Json) :=
  match members.filter (·.1 == name) with
  | [] => some none
  | [(_, value)] => some (some value)
  | _ => none

/-- The values of the named members of an object. Other members are passed over, and a named
member that is repeated makes the object unreadable. -/
def members? (names : List String) : Json → Option (List (Option Json))
  | .object members => names.mapM (uniqueMember? members)
  | _ => none

/-- The fields of a record, which is written as an object, or as an array of the fields in their
order with any number of them missing at the end. -/
def record? (names : List String) : Json → Option (List (Option Json))
  | .array items =>
    if items.length ≤ names.length then
      some (items.map some ++ List.replicate (names.length - items.length) none)
    else none
  | json => json.members? names

/-- A field that has to be there. -/
def required {α : Type} (read : Json → Option α) (field : Option Json) : Option α :=
  field.bind read

/-- A field with a default for when it is missing. -/
def withDefault {α : Type} (default : α) (read : Json → Option α) (field : Option Json) : Option α :=
  field.elim (some default) read

/-- A field that may be missing or null. -/
def nullable {α : Type} (read : Json → Option α) : Option Json → Option (Option α)
  | none => some none
  | some .null => some none
  | some json => (read json).map some

end Json

end Chunking
