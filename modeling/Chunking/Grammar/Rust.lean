/-
Rust: functions, types, traits, implementations and imports. An implementation
is divided into a header and its methods; modules and macros become chunks of
their own.
-/

import Chunking.Grammar

namespace Chunking.Grammar.Rust

def boundary : BoundaryRule :=
  { continuations := ["where", "else"] }

/-- Whether an item is visible outside of its module. -/
def isPublic (source : String) (node : Node) : Bool :=
  (node.childrenOfKind "visibility_modifier").any fun modifier =>
    Text.startsWith "pub" (modifier.text source)

def noteVisibility (source : String) (node : Node) (draft : Draft) : Draft :=
  draft.note "is_public" (.bool (isPublic source node))

/-- The draft of a function, or of a method if the name of its type is given. -/
def functionDraft (source : String) (node : Node) (parent : Option String) : Draft :=
  let kind : Kind := if parent.isSome then .method else .function
  let modifiers := (node.childrenOfKind "function_modifiers").head?.map (·.text source)
  let hasModifier (word : String) : Option Json :=
    modifiers.map fun text => .bool (Text.contains word text)
  noteVisibility source node
    (node.draft source kind (node.fieldText "name" source) Confidence.certain)
    |>.note "signature" (.string (node.signature source))
    |>.noteIf "is_async" (hasModifier "async")
    |>.noteIf "is_unsafe" (hasModifier "unsafe")
    |>.noteIf "parent" (parent.map .string)

/-- The draft of a type that is declared by one word. -/
def typeDraft (source : String) (node : Node) (word : String) : Draft :=
  noteVisibility source node
    ((node.draft source .classDef (node.fieldText "name" source) Confidence.certain).note "kind"
      (.string word))

/-- The header of an implementation, if it has lines of its own, and its methods. -/
def implDrafts (source : String) (node : Node) : List Draft :=
  let type := (node.fieldText? "type" source).getD "Unknown"
  let trait := node.fieldText? "trait" source
  let methods := (node.child? "body").elim [] (·.childrenOfKind "function_item")
  let firstMember := methods.head?.map fun method => (method.span source).startLine
  let header := (Source.headerSpan? source (node.span source) firstMember).map fun span =>
    let draft : Draft :=
      { kind := .implBlock
        name := trait.elim type fun trait => trait ++ " for " ++ type
        span
        rawConfidence := Confidence.high
        hasErrors := node.hasError }
    draft
      |>.note "impl_type" (.string type)
      |>.noteIf "trait" (trait.map .string)
      |>.note "method_count" (.nat methods.length)
  header.toList ++ methods.map fun method => functionDraft source method (some type)

/-- The draft of an item that is kept only as a whole. -/
def otherDraft (source : String) (node : Node) (word : String) : Draft :=
  (node.draft source .other (node.fieldText "name" source) Confidence.moderate).note "kind"
    (.string word)

def drafts (source : String) (node : Node) : List Draft :=
  match node.kind with
  | "function_item" => [functionDraft source node none]
  | "struct_item" => [typeDraft source node "struct"]
  | "enum_item" => [typeDraft source node "enum"]
  | "union_item" => [typeDraft source node "union"]
  | "trait_item" =>
    [noteVisibility source node
      (node.draft source .traitDef (node.fieldText "name" source) Confidence.certain)]
  | "impl_item" => implDrafts source node
  | "use_declaration" =>
    [noteVisibility source node
      (node.draft source .importDecl (node.fieldText "argument" source) Confidence.high)]
  | "extern_crate_declaration" =>
    [node.draft source .importDecl (node.fieldText "name" source) Confidence.high]
  | "mod_item" =>
    if (node.child? "body").isSome then [otherDraft source node "module"] else []
  | "macro_definition" => [otherDraft source node "macro"]
  | _ => []

end Chunking.Grammar.Rust

namespace Chunking.Grammar

/-- The grammar of Rust. -/
def rust : Grammar :=
  { language := .rust, boundary := Rust.boundary, drafts := Rust.drafts }

end Chunking.Grammar
