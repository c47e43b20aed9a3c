/-
JavaScript and TypeScript, with their dialects. Besides functions, classes,
types, imports and exports, the constructs of React are told apart by what stands
in the text itself: hooks by their names, components by their names and markup,
contexts and wrapped components by the functions that make them.
-/

import Chunking.Grammar
import Chunking.Text.Uppercase

namespace Chunking.Grammar.Script

def boundary : BoundaryRule :=
  { continuations := ["else", "catch", "finally", "extends", "implements"] }

/-! ### Names and annotations -/

def isHookName (name : String) : Bool :=
  (Text.after? "use" name).any Text.startsUppercase

def isComponentName (name : String) : Bool :=
  Text.startsUppercase name

/-- A function that wraps components is named for what it wraps them with. -/
def isWrapperName (name : String) : Bool :=
  (Text.after? "with" name).any Text.startsUppercase

/-- The types that mark a binding as a component. -/
def componentTypes : List String :=
  ["FC", "React.FC", "FunctionComponent", "React.FunctionComponent", "VFC", "React.VFC"]

def isComponentType (typeMark : String) : Bool :=
  componentTypes.contains
    (Text.trim (String.ofList (typeMark.toList.takeWhile (· != '<'))))

/-- What stands between the first opening and the last closing angle bracket. -/
def genericArgument? (typeMark : String) : Option String :=
  let inside := (typeMark.toList.dropWhile (· != '<')).drop 1
  match inside.reverse.dropWhile (· != '>') with
  | _ :: char :: rest => some (Text.trim (String.ofList (char :: rest).reverse))
  | _ => none

/-- A type without the colon in front of it. -/
def typeMarkText (text : String) : String :=
  Text.trim (Text.trimStartOf ':' text)

def unquote (text : String) : String :=
  Text.trimOf ['"', '\'', '\x60'] text

/-! ### What a subtree uses -/

def containsMarkup (node : Node) : Bool :=
  node.preorder.any fun below => Text.startsWith "jsx_" below.kind

/-- The hook that a node calls, without the object that it is taken from. -/
def calledHook? (source : String) (node : Node) : Option String :=
  if node.kind = "call_expression" then
    (node.fieldText? "function" source).bind fun callee =>
      (Text.splitAt '.' callee).getLast?.filter isHookName
  else none

/-- The hooks called in a subtree, sorted. -/
def hooksUsed (source : String) (node : Node) : List String :=
  (Dictionary.ofList ((node.preorder.filterMap (calledHook? source)).map (·, ()))).keys

/-- An entry of metadata for the hooks, unless there are none. -/
def hookNote (source : String) (node : Node) : Option Json :=
  let hooks := hooksUsed source node
  if hooks.isEmpty then none else some (.strings hooks)

/-- The type arguments of a call. -/
def typeArguments? (source : String) (call : Node) : Option String :=
  (call.childrenOfKind "type_arguments").head?.map fun arguments =>
    Text.trim (Text.trimEndOf '>' (Text.trimStartOf '<' (arguments.text source)))

/-- The type of the first parameter. -/
def firstParameterType? (source : String) (callable : Node) : Option String :=
  ((callable.child? "parameters").bind (·.namedChildren.head?)).bind fun parameter =>
    (parameter.fieldText? "type" source).map typeMarkText

/-! ### Callables -/

def isCallable (node : Node) : Bool :=
  ["arrow_function", "function_expression", "function", "generator_function"].contains node.kind

/-- How a component is written: as an arrow, or as a function. -/
def componentForm (callable : Node) : String :=
  if callable.kind = "arrow_function" then "arrow" else "function"

/-- The draft of a function, which may be a hook or a component, on the lines of `outer`. -/
def callableDraft (source : String) (outer callable : Node) (name : String) : Draft :=
  let hasMarkup := containsMarkup callable
  let draft :=
    if isHookName name then outer.draft source .hook name Confidence.high
    else if isComponentName name && hasMarkup then
      outer.draft source .component name Confidence.high
        |>.note "component_type" (.string (componentForm callable))
        |>.noteIf "props_type" ((firstParameterType? source callable).map .string)
    else
      outer.draft source .function name Confidence.certain
        |>.noteIf "is_hoc" (if isWrapperName name then some (.bool true) else none)
  draft
    |>.note "is_async" (.bool (Text.startsWith "async" (callable.text source)))
    |>.noteIf "has_jsx" (if draft.kind = .function then none else some (.bool hasMarkup))
    |>.noteIf "hooks_used" (hookNote source callable)

/-- Makes a draft a component if its type says so. -/
def applyTypeMark (name typeMark : String) (draft : Draft) : Draft :=
  if isComponentName name && isComponentType typeMark then
    { draft with kind := .component }
      |>.note "component_type" (.string "fc")
      |>.noteIf "props_type" ((genericArgument? typeMark).map .string)
  else draft

/-- The draft of a binding to the result of a call, if the call makes a context or a component. -/
def callDraft? (source : String) (outer call : Node) (name : String) : Option Draft :=
  (call.fieldText? "function" source).bind fun callee =>
    let component (form : String) : Draft :=
      outer.draft source .component name Confidence.wrapped
        |>.note "component_type" (.string form)
        |>.note "has_jsx" (.bool (containsMarkup call))
        |>.noteIf "hooks_used" (hookNote source call)
    if Text.endsWith "createContext" callee then
      some ((outer.draft source .context name Confidence.high).noteIf "context_type"
        ((typeArguments? source call).map .string))
    else if Text.endsWith "memo" callee then some (component "memo")
    else if Text.endsWith "forwardRef" callee then some (component "forward_ref")
    else none

/-! ### Classes and types -/

def methodDraft (source : String) (method : Node) (parent : String) : Draft :=
  let text := method.text source
  method.draft source .method (method.fieldText "name" source) Confidence.certain
    |>.note "parent" (.string parent)
    |>.note "is_static" (.bool (Text.startsWith "static" text))
    |>.note "is_async" (.bool (((Text.words text).take 2).contains "async"))

/-- The header of a class, if it has lines of its own, and its methods. -/
def classDrafts (source : String) (outer definition : Node) (name : String) : List Draft :=
  let methods := ((definition.child? "body").elim [] Node.namedChildren).filter
    (·.kind == "method_definition")
  let heritage := (definition.childrenOfKind "class_heritage").head?.map (·.text source)
  let isComponent := heritage.any (Text.contains "Component")
  let firstMember := methods.head?.map fun method => (method.span source).startLine
  let header := (Source.headerSpan? source (outer.span source) firstMember).map fun span =>
    let draft : Draft :=
      { kind := if isComponent then .component else .classDef
        name, span
        rawConfidence := Confidence.certain
        hasErrors := definition.hasError }
    draft
      |>.noteIf "component_type" (if isComponent then some (.string "class") else none)
      |>.noteIf "heritage" (heritage.map .string)
      |>.note "method_count" (.nat methods.length)
  header.toList ++ methods.map fun method => methodDraft source method name

def typeDraft (source : String) (outer declaration : Node) (word : String) : Draft :=
  (outer.draft source .other (declaration.fieldText "name" source) Confidence.high).note "kind"
    (.string word)

/-! ### Bindings -/

/-- The drafts of a binding of one name. Values that are no construct of their own count only
where they are exported. -/
def bindingDrafts (source : String) (outer declarator : Node) (exported : Bool) : List Draft :=
  let name := declarator.fieldText "name" source
  let typeMark := typeMarkText (declarator.fieldText "type" source)
  let plain := if exported then [outer.draft source .exportDecl name Confidence.high] else []
  match declarator.child? "value" with
  | none => plain
  | some value =>
    if isCallable value then
      [applyTypeMark name typeMark (callableDraft source outer value name)]
    else if value.kind = "call_expression" then
      (callDraft? source outer value name).elim plain ([·])
    else if value.kind = "class" then classDrafts source outer value name
    else plain

/-- The drafts of a statement that binds names. Several bindings in one statement only matter as
an export. -/
def bindingsDrafts (source : String) (outer declaration : Node) (exported : Bool) : List Draft :=
  match declaration.namedChildren.filter (·.kind == "variable_declarator") with
  | [declarator] => bindingDrafts source outer declarator exported
  | declarators =>
    if exported then
      let names := declarators.filterMap (·.fieldText? "name" source)
      [outer.draft source .exportDecl (", ".intercalate names) Confidence.high]
    else []

/-! ### Statements -/

/-- The drafts of a declaration on the lines of `outer`. -/
def declarationDrafts (source : String) (outer declaration : Node) (exported : Bool) : List Draft :=
  let name := declaration.fieldText "name" source
  match declaration.kind with
  | "function_declaration" | "generator_function_declaration" =>
    [callableDraft source outer declaration name]
  | "class_declaration" | "abstract_class_declaration" =>
    classDrafts source outer declaration name
  | "lexical_declaration" | "variable_declaration" =>
    bindingsDrafts source outer declaration exported
  | "interface_declaration" => [typeDraft source outer declaration "interface"]
  | "type_alias_declaration" => [typeDraft source outer declaration "type"]
  | "enum_declaration" => [typeDraft source outer declaration "enum"]
  | "internal_module" | "module" => [typeDraft source outer declaration "namespace"]
  | _ => []

/-- Marks the first of several drafts as exported. -/
def markExport (isDefault : Bool) : List Draft → List Draft
  | [] => []
  | draft :: rest =>
    (draft.note "is_export" (.bool true)
      |>.note "is_default_export" (.bool isDefault)) :: rest

/-- The drafts of an exported value. -/
def valueDrafts (source : String) (node value : Node) (isDefault : Bool) : List Draft :=
  let name := (value.fieldText? "name" source).getD "default"
  if isCallable value then markExport isDefault [callableDraft source node value name]
  else if value.kind = "class" then markExport isDefault (classDrafts source node value name)
  else
    [(node.draft source .exportDecl (value.text source) Confidence.high).note "is_default_export"
      (.bool true)]

/-- The draft of a list of exported names, which may come from another module. -/
def nameListDraft (source : String) (node : Node) : Draft :=
  let names := (node.preorder.filter (·.kind == "export_specifier")).filterMap
    (·.fieldText? "name" source)
  node.draft source .exportDecl (", ".intercalate names) Confidence.high
    |>.note "names" (.strings names)
    |>.noteIf "source" ((node.fieldText? "source" source).map fun text => .string (unquote text))

def exportDrafts (source : String) (node : Node) : List Draft :=
  let isDefault := !(node.childrenOfKind "default").isEmpty
  match node.child? "declaration", node.child? "value" with
  | some declaration, _ => markExport isDefault (declarationDrafts source node declaration true)
  | none, some value => valueDrafts source node value isDefault
  | none, none => [nameListDraft source node]

/-- The names that a node of an import brings in by itself. -/
def importedNames (source : String) (node : Node) : List String :=
  match node.kind with
  | "import_specifier" => (node.fieldText? "name" source).toList
  | "import_clause" | "namespace_import" =>
    (node.namedChildren.filter (·.kind == "identifier")).map (·.text source)
  | _ => []

def importDraft (source : String) (node : Node) : Draft :=
  let module := ((node.fieldText? "source" source).map unquote).getD ""
  node.draft source .importDecl module Confidence.high
    |>.note "module" (.string module)
    |>.note "names" (.strings (node.preorder.flatMap (importedNames source)))

def drafts (source : String) (node : Node) : List Draft :=
  match node.kind with
  | "export_statement" => exportDrafts source node
  | "import_statement" => [importDraft source node]
  | _ => declarationDrafts source node node false

end Chunking.Grammar.Script

namespace Chunking.Grammar

/-- The grammar of one of the dialects of JavaScript. -/
def script (language : Language) : Grammar :=
  { language, boundary := Script.boundary, drafts := Script.drafts }

end Chunking.Grammar
