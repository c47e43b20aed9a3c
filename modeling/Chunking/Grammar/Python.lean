/-
Python: functions, classes and imports of the module. A class is divided into a
header and its methods; decorators belong to what they decorate.
-/

import Chunking.Grammar

namespace Chunking.Grammar.Python

def continuations : List String := ["else", "elif", "except", "finally", "case"]

def boundary : BoundaryRule :=
  { continuations
    reachesOn := fun line => Boundary.isAttachment line || Boundary.endsIn "\\" line }

/-- A definition, and the node around it that includes its decorators. -/
structure Decorated where
  outer : Node
  definition : Node

/-- The texts of the decorators of a node. -/
def decorators (source : String) (outer : Node) : List String :=
  if outer.kind = "decorated_definition" then
    (outer.childrenOfKind "decorator").map fun decorator =>
      Text.trim (Text.trimStartOf '@' (decorator.text source))
  else []

/-- Whether the body of a definition begins with a string. -/
def hasDocstring (definition : Node) : Bool :=
  ((definition.child? "body").bind (·.namedChildren.head?)).any fun statement =>
    statement.kind == "expression_statement"
      && statement.namedChildren.head?.any (·.kind == "string")

/-- An entry of metadata for decorators, unless there are none. -/
def decoratorNote (source : String) (outer : Node) : Option Json :=
  let texts := decorators source outer
  if texts.isEmpty then none else some (.strings texts)

/-- The draft of a function, or of a method if the name of its class is given. -/
def functionDraft (source : String) (function : Decorated) (parent : Option String) : Draft :=
  let definition := function.definition
  let kind : Kind := if parent.isSome then .method else .function
  let draft := function.outer.draft source kind (definition.fieldText "name" source)
    Confidence.certain
  draft
    |>.note "is_async" (.bool (Text.startsWith "async" (definition.text source)))
    |>.noteIf "parameters" ((definition.fieldText? "parameters" source).map .string)
    |>.noteIf "return_type" ((definition.fieldText? "return_type" source).map .string)
    |>.noteIf "decorators" (decoratorNote source function.outer)
    |>.note "has_docstring" (.bool (hasDocstring definition))
    |>.noteIf "parent" (parent.map .string)

/-- The method that a statement of a class body defines. -/
def method? (statement : Node) : Option Decorated :=
  if statement.kind = "function_definition" then some ⟨statement, statement⟩
  else if statement.kind = "decorated_definition" then
    ((statement.child? "definition").filter (·.kind == "function_definition")).map fun definition =>
      ⟨statement, definition⟩
  else none

/-- The header of a class, if it has lines of its own, and its methods. -/
def classDrafts (source : String) (decorated : Decorated) : List Draft :=
  let definition := decorated.definition
  let name := definition.fieldText "name" source
  let methods := ((definition.child? "body").elim [] Node.children).filterMap method?
  let span := decorated.outer.span source
  let firstMember := methods.head?.map fun method => (method.outer.span source).startLine
  let header := (Source.headerSpan? source span firstMember).map fun span =>
    let draft : Draft :=
      { kind := .classDef, name, span, rawConfidence := Confidence.certain
        hasErrors := definition.hasError }
    draft
      |>.noteIf "bases" ((definition.fieldText? "superclasses" source).map .string)
      |>.noteIf "decorators" (decoratorNote source decorated.outer)
      |>.note "method_count" (.nat methods.length)
      |>.note "has_docstring" (.bool (hasDocstring definition))
  header.toList ++ methods.map fun method => functionDraft source method (some name)

/-- The name that one part of an import brings in, without its alias. -/
def importedName (source : String) (part : Node) : String :=
  if part.kind = "aliased_import" then part.fieldText "name" source else part.text source

def importDraft (source : String) (node : Node) : Draft :=
  let module := node.fieldText "module_name" source
  let everything := if (node.childrenOfKind "wildcard_import").isEmpty then [] else ["*"]
  let names := (node.childrenAt "name").map (importedName source) ++ everything
  let name := if module.isEmpty then ", ".intercalate names else module
  node.draft source .importDecl name Confidence.high
    |>.note "module" (.string module)
    |>.note "names" (.strings names)

/-- The drafts of a definition with what stands around it. -/
def definitionDrafts (source : String) (decorated : Decorated) : List Draft :=
  match decorated.definition.kind with
  | "function_definition" => [functionDraft source decorated none]
  | "class_definition" => classDrafts source decorated
  | _ => []

def drafts (source : String) (node : Node) : List Draft :=
  match node.kind with
  | "function_definition" | "class_definition" => definitionDrafts source ⟨node, node⟩
  | "decorated_definition" =>
    ((node.child? "definition").map fun definition =>
      definitionDrafts source ⟨node, definition⟩).getD []
  | "import_statement" | "import_from_statement" | "future_import_statement" =>
    [importDraft source node]
  | _ => []

end Chunking.Grammar.Python

namespace Chunking.Grammar

/-- The grammar of Python. -/
def python : Grammar :=
  { language := .python, boundary := Python.boundary, drafts := Python.drafts }

end Chunking.Grammar
