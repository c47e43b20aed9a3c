/-
Syntax trees. A node knows its kind, the bytes of the text that it covers, the
field that it fills in its parent, and whether anything in it could not be
parsed.
-/

namespace Chunking

/-- A node of a syntax tree with everything below it. -/
structure Node where
  kind : String
  /-- The first byte of the node. -/
  start : Nat
  /-- The byte behind the last one. -/
  stop : Nat
  /-- Whether the node stands for a rule of the grammar, and not for a token of it. -/
  isNamed : Bool
  /-- Whether there is an error in the node or below it. -/
  hasError : Bool
  /-- The field of the parent that the node fills. -/
  field : Option String
  children : List Node
  deriving Inhabited

namespace Node

/-- The first child that fills a field. -/
def child? (node : Node) (field : String) : Option Node :=
  node.children.find? (·.field == some field)

/-- All children that fill a field. -/
def childrenAt (node : Node) (field : String) : List Node :=
  node.children.filter (·.field == some field)

def namedChildren (node : Node) : List Node :=
  node.children.filter (·.isNamed)

/-- The children of one kind. -/
def childrenOfKind (node : Node) (kind : String) : List Node :=
  node.children.filter (·.kind == kind)

mutual

/-- The node and all nodes below it, parents first. -/
def preorder : Node → List Node
  | ⟨kind, start, stop, isNamed, hasError, field, children⟩ =>
    ⟨kind, start, stop, isNamed, hasError, field, children⟩ :: preorderAll children

def preorderAll : List Node → List Node
  | [] => []
  | node :: rest => node.preorder ++ preorderAll rest

end

end Node

end Chunking
