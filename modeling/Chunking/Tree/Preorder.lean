/-
Trees written as flat lists: the nodes in preorder, each with the number of its
children. Read from the end, every node finds its children already built, as the
latest ones that have no parent yet.
-/

import Chunking.Digest
import Chunking.Json.Basic
import Chunking.Language
import Chunking.Tree.Node

namespace Chunking

namespace Node

/-- Puts a node in front of finished trees, of which it takes the first as its children. -/
def adopt (node : Node) (childCount : Nat) (finished : List Node) : Option (List Node) :=
  if childCount ≤ finished.length then
    some ({ node with children := finished.take childCount } :: finished.drop childCount)
  else none

/-- The tree whose nodes, given without their children, come in preorder with the numbers of
their children. -/
def ofPreorder? (entries : List (Node × Nat)) : Option Node :=
  match entries.foldr (fun entry finished => finished.bind (entry.1.adopt entry.2)) (some []) with
  | some [root] => some root
  | _ => none

end Node

/-! ### Trees as data -/

/-- A node as data: its kind, its first byte and the byte behind it, flags, the number of its
children, and its field if it has one. -/
def Node.entryOfJson? (json : Json) : Option (Node × Nat) := do
  let kind :: start :: stop :: flags :: childCount :: rest ← json.asArray? | none
  let flags ← flags.asNat?
  let node : Node :=
    { kind := ← kind.asString?
      start := ← start.asNat?
      stop := ← stop.asNat?
      isNamed := flags % 2 = 1
      hasError := flags / 2 % 2 = 1
      field := rest.head?.bind Json.asString?
      children := [] }
  return (node, ← childCount.asNat?)

def Node.ofJson? (json : Json) : Option Node :=
  (json.asListOf? Node.entryOfJson?).bind Node.ofPreorder?

/-- Trees of known texts, each under its language and the digest of its text. -/
abbrev Forest := Dictionary Node

namespace Forest

def key (language : Language) (text : String) : String :=
  language.name ++ ":" ++ Digest.ofText text

/-- The tree of a text. -/
def tree? (forest : Forest) (language : Language) (text : String) : Option Node :=
  forest.get? (key language text)

/-- Reads trees from an object; what is no tree is left out. -/
def ofJson : Json → Forest
  | .object members =>
    Dictionary.ofList (members.filterMap fun (key, value) =>
      (Node.ofJson? value).map fun node => (key, node))
  | _ => {}

end Forest

end Chunking
