/-
TOML documents. A table remembers how it came about, because that decides
whether it may be continued: a table behind a header only by headers of tables
inside of it, a table made by dotted keys only by further dotted keys, a table
written inline not at all, and a table that is only implied may still get a
header of its own.
-/

import Chunking.Json.Basic

namespace Chunking

open Number

/-- How a table came about. -/
inductive Toml.Origin where
  | header
  | implied
  | dotted
  | inline
  deriving DecidableEq, Repr

inductive Toml where
  | string (value : String)
  | integer (value : Int)
  | float (value : Double)
  | boolean (value : Bool)
  /-- A date, a time, or both. -/
  | moment (text : String)
  | array (items : List Toml)
  | table (origin : Toml.Origin) (entries : List (String × Toml))
  /-- Tables under one name, each with a header of its own. -/
  | tables (items : List (List (String × Toml)))
  deriving Repr, Inhabited

namespace Toml

/-- The entries of a table, in the order of their definition. -/
abbrev Entries := List (String × Toml)

/-- Gives a key a value in place of the one that it has. -/
def replace (key : String) (value : Toml) (entries : Entries) : Entries :=
  entries.map fun entry => if entry.1 = key then (key, value) else entry

/-- Gives a key a value, in place of the one that it has, or behind all others. -/
def put (key : String) (value : Toml) (entries : Entries) : Entries :=
  if (entries.lookup key).isSome then replace key value entries else entries ++ [(key, value)]

/-! ### Keys -/

/-- Enters a value under a dotted key: the tables on the way are made, or were made by dotted keys
before. `steps` are the keys before the last one. -/
def define (last : String) (value : Toml) : (steps : List String) → Entries → Option Entries
  | [], entries =>
    if (entries.lookup last).isSome then none else some (entries ++ [(last, value)])
  | step :: steps, entries =>
    match entries.lookup step with
    | none => (define last value steps []).map fun inner =>
        entries ++ [(step, .table .dotted inner)]
    | some (.table .dotted inner) =>
      (define last value steps inner).map fun inner => replace step (.table .dotted inner) entries
    | some (.table .implied inner) =>
      if steps.isEmpty then none
      else (define last value steps inner).map fun inner =>
        replace step (.table .implied inner) entries
    | some (.tables items) =>
      if steps.isEmpty then none
      else
        match items.getLast? with
        | none => none
        | some inner => (define last value steps inner).map fun inner =>
          replace step (.tables (items.dropLast ++ [inner])) entries
    | some _ => none

/-! ### Headers -/

/-- Changes the entries of the table at the end of a path of headers. -/
def within (change : Entries → Option Entries) : (path : List String) → Entries → Option Entries
  | [], entries => change entries
  | step :: path, entries =>
    match entries.lookup step with
    | none => (within change path []).map fun inner => entries ++ [(step, .table .implied inner)]
    | some (.table .inline _) => none
    | some (.table origin inner) =>
      (within change path inner).map fun inner => replace step (.table origin inner) entries
    | some (.tables items) =>
      match items.getLast? with
      | none => none
      | some inner => (within change path inner).map fun inner =>
        replace step (.tables (items.dropLast ++ [inner])) entries
    | some _ => none

/-- Opens the table of a header, which must not have been opened before. -/
def openTable (last : String) (entries : Entries) : Option Entries :=
  match entries.lookup last with
  | none => some (entries ++ [(last, .table .header [])])
  | some (.table .implied inner) => some (replace last (.table .header inner) entries)
  | some _ => none

/-- Opens a further table under the name of a header. -/
def openItem (last : String) (entries : Entries) : Option Entries :=
  match entries.lookup last with
  | none => some (entries ++ [(last, .tables [[]])])
  | some (.tables items) => some (replace last (.tables (items ++ [[]])) entries)
  | some _ => none

/-! ### As JSON -/

mutual

/-- The value without the origins of its tables. Data has no moments, which become records. -/
def toJson : Toml → Json
  | .string value => .string value
  | .integer value => .number (.integer value)
  | .float value => .number (.double value)
  | .boolean value => .bool value
  | .moment text => .object [("moment", .string text)]
  | .array items => .array (itemsToJson items)
  | .table _ entries => .object (entriesToJson entries)
  | .tables items => .array (tablesToJson items)

def itemsToJson : List Toml → List Json
  | [] => []
  | item :: rest => item.toJson :: itemsToJson rest

def entriesToJson : List (String × Toml) → List (String × Json)
  | [] => []
  | (key, value) :: rest => (key, value.toJson) :: entriesToJson rest

def tablesToJson : List (List (String × Toml)) → List Json
  | [] => []
  | entries :: rest => .object (entriesToJson entries) :: tablesToJson rest

end

end Toml

end Chunking
