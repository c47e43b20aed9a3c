/-
Go: functions, methods, types and imports. Functions tell how they use
goroutines, channels and locks, methods their receivers, and types what they
hold.
-/

import Chunking.Grammar
import Chunking.Text.Uppercase

namespace Chunking.Grammar.Go

def boundary : BoundaryRule :=
  { continuations := ["else", "case", "default"]
    reachesOn := Boundary.endsIn "," }

/-- A name is visible in other packages if it begins with a capital letter. -/
def isExported (name : String) : Bool :=
  Text.startsUppercase name

/-! ### Concurrency -/

/-- The use of goroutines, channels and locks in a function. -/
structure Concurrency where
  goroutines : Nat
  channelOperations : Nat
  usesLock : Bool

namespace Concurrency

def isChannelOperation (source : String) (node : Node) : Bool :=
  node.kind == "send_statement"
    || (node.kind == "unary_expression" && node.fieldText? "operator" source == some "<-")

def isLockOperation (source : String) (node : Node) : Bool :=
  node.kind == "selector_expression"
    && (node.fieldText? "field" source).any ["Lock", "Unlock", "RLock", "RUnlock"].contains

def scan (source : String) (body : Node) : Concurrency :=
  { goroutines := body.preorder.countP (·.kind == "go_statement")
    channelOperations := body.preorder.countP (isChannelOperation source)
    usesLock := body.preorder.any (isLockOperation source) }

def isUsed (usage : Concurrency) : Bool :=
  0 < usage.goroutines || 0 < usage.channelOperations || usage.usesLock

def toJson (usage : Concurrency) : Json :=
  .object [("channel_ops", .nat usage.channelOperations), ("goroutines", .nat usage.goroutines),
    ("mutex", .bool usage.usesLock)]

end Concurrency

/-! ### Functions -/

/-- The draft of a function, or of a method if the type of its receiver is given. -/
def functionDraft (source : String) (node : Node) (parent : Option String) : Draft :=
  let name := node.fieldText "name" source
  let kind : Kind := if parent.isSome then .method else .function
  let usage := ((node.child? "body").map (Concurrency.scan source)).filter Concurrency.isUsed
  node.draft source kind name Confidence.certain
    |>.note "is_exported" (.bool (isExported name))
    |>.note "signature" (.string (node.signature source))
    |>.noteIf "parent" (parent.map .string)
    |>.noteIf "concurrency" (usage.map Concurrency.toJson)

/-- The type of a receiver as it is written. -/
def receiverType? (source : String) (method : Node) : Option String :=
  (method.child? "receiver").bind fun list =>
    (list.namedChildren.find? (·.kind == "parameter_declaration")).bind
      (·.fieldText? "type" source)

/-- The name of a type without its pointer mark and its type arguments. -/
def bareType (type : String) : String :=
  let bare := Text.trim (Text.trimStartOf '*' type)
  Text.trim (String.ofList (bare.toList.takeWhile (· != '[')))

def methodDraft (source : String) (node : Node) : Draft :=
  let type := receiverType? source node
  functionDraft source node (some ((type.map bareType).getD "Unknown"))
    |>.note "receiver" (.string (node.fieldText "receiver" source))
    |>.note "pointer_receiver" (.bool (type.any (Text.startsWith "*")))

/-! ### Types -/

/-- What a type declaration declares. -/
inductive TypeForm where
  | alias
  | struct (body : Node)
  | interface (body : Node)
  | named

namespace TypeForm

def ofSpec (spec : Node) : TypeForm :=
  if spec.kind = "type_alias" then .alias
  else
    match spec.child? "type" with
    | none => .named
    | some body =>
      match body.kind with
      | "struct_type" => .struct body
      | "interface_type" => .interface body
      | _ => .named

def kind : TypeForm → Kind
  | .struct _ => .classDef
  | .interface _ => .traitDef
  | _ => .other

def word : TypeForm → String
  | .alias => "alias"
  | .struct _ => "struct"
  | .interface _ => "interface"
  | .named => "type"

def confidence : TypeForm → Number.Single
  | .struct _ | .interface _ => Confidence.certain
  | .alias | .named => Confidence.moderate

end TypeForm

/-- Tells about the fields of a struct. -/
def noteFields (source : String) (body : Node) (draft : Draft) : Draft :=
  let fields := body.preorder.filter (·.kind == "field_declaration")
  let hasField (ending : String) : Bool :=
    fields.any fun field => Text.endsWith ending (field.fieldText "type" source)
  draft
    |>.note "field_count" (.nat fields.length)
    |>.note "has_mutex" (.bool (hasField "Mutex"))
    |>.note "has_waitgroup" (.bool (hasField "WaitGroup"))
    |>.note "has_channel" (.bool (body.preorder.any (·.kind == "channel_type")))

/-- Tells about the methods of an interface. -/
def noteMethods (body : Node) (draft : Draft) : Draft :=
  draft.note "method_count" (.nat (body.namedChildren.countP fun child =>
    child.kind == "method_elem" || child.kind == "method_spec"))

def typeDraft (source : String) (outer spec : Node) : Draft :=
  let form := TypeForm.ofSpec spec
  let name := spec.fieldText "name" source
  let draft := outer.draft source form.kind name form.confidence
    |>.note "go_type" (.string form.word)
    |>.note "is_exported" (.bool (isExported name))
  match form with
  | .struct body => noteFields source body draft
  | .interface body => noteMethods body draft
  | .alias | .named => draft

/-- The drafts of a type declaration. A single type has the lines of the whole declaration, the
types of a group have their own. -/
def typeDrafts (source : String) (node : Node) : List Draft :=
  match node.namedChildren.filter fun child =>
      child.kind == "type_spec" || child.kind == "type_alias" with
  | [spec] => [typeDraft source node spec]
  | specs => specs.map fun spec => typeDraft source spec spec

/-! ### Declarations -/

def importDraft (source : String) (node : Node) : Draft :=
  let paths := (node.preorder.filter (·.kind == "import_spec")).filterMap fun spec =>
    (spec.fieldText? "path" source).map (Text.trimOf ['"', '\x60'])
  (node.draft source .importDecl (", ".intercalate paths) Confidence.high).note "names"
    (.strings paths)

def drafts (source : String) (node : Node) : List Draft :=
  match node.kind with
  | "function_declaration" => [functionDraft source node none]
  | "method_declaration" => [methodDraft source node]
  | "type_declaration" => typeDrafts source node
  | "import_declaration" => [importDraft source node]
  | _ => []

end Chunking.Grammar.Go

namespace Chunking.Grammar

/-- The grammar of Go. -/
def go : Grammar :=
  { language := .go, boundary := Go.boundary, drafts := Go.drafts }

end Chunking.Grammar
