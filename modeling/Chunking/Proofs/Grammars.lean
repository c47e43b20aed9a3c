/-
What all grammars do with the lines of a tree. A grammar gives a top-level node
either the lines of the node, or divides it: into the nodes of a group, or into
members and a header that reaches down to the first of them. So all that is
found stays on the lines of one top-level node, and since a parser gives nodes
that are in order, everything that is asked of a processor follows: what it finds
is in a row and inside of the text, the outline is in order, and a window is
refused for nothing but an error in it.
-/

import Chunking.Grammar.Registry
import Chunking.Proofs.Nodes
import Chunking.Proofs.Settling

namespace Chunking

/-! ### Lines of drafts -/

@[simp]
theorem Draft.span_note (draft : Draft) (key : String) (value : Json) :
    (draft.note key value).span = draft.span := rfl

@[simp]
theorem Draft.span_noteIf (draft : Draft) (key : String) (value : Option Json) :
    (draft.noteIf key value).span = draft.span := by
  cases value <;> rfl

@[simp]
theorem Node.span_draft (node : Node) (source : String) (kind : Kind) (name : String)
    (confidence : Number.Single) :
    (node.draft source kind name confidence).span = node.span source := rfl

/-- The lines of what is made of a header and of members. -/
theorem Draft.map_span_header {α : Type} (header : Option Span) (items : List α)
    (toHeader : Span → Draft) (toDraft : α → Draft) (spanOf : α → Span)
    (headerSpan : ∀ span, (toHeader span).span = span)
    (itemSpan : ∀ item, (toDraft item).span = spanOf item) :
    ((header.map toHeader).toList ++ items.map toDraft).map Draft.span =
      header.toList ++ items.map spanOf := by
  rw [List.map_append, List.map_map, show Draft.span ∘ toDraft = spanOf from funext itemSpan]
  cases header with
  | none => rfl
  | some span => simp [headerSpan]

namespace Source

theorem lastFilled_bounds (lines : List String) {start line : Nat} (ordered : start ≤ line) :
    start ≤ lastFilled lines start line ∧ lastFilled lines start line ≤ line := by
  induction line with
  | zero => exact ⟨ordered, Nat.le_refl 0⟩
  | succ line inductionHypothesis =>
    unfold lastFilled
    split
    next blank =>
      rw [Bool.and_eq_true, decide_eq_true_eq] at blank
      obtain ⟨lower, upper⟩ := inductionHypothesis (Nat.le_of_lt_succ blank.1)
      exact ⟨lower, Nat.le_succ_of_le upper⟩
    · exact ⟨ordered, Nat.le_refl _⟩

/-- A header holds lines of its container, up to those of the first member. -/
theorem headerSpan?_within {source : String} {container header : Span} {firstMember : Option Nat}
    (proper : container.startLine ≤ container.endLine)
    (inside : ∀ member ∈ firstMember, member ≤ container.endLine)
    (found : headerSpan? source container firstMember = some header) :
    header.startLine ≤ header.endLine ∧ header.Within container := by
  cases firstMember with
  | none =>
    cases found
    exact ⟨proper, Nat.le_refl _, Nat.le_refl _⟩
  | some member =>
    rw [headerSpan?] at found
    split at found
    · cases found
    next later =>
      cases found
      have memberInside := inside member rfl
      obtain ⟨lower, upper⟩ := lastFilled_bounds (Text.plainLines source)
        (Nat.le_sub_one_of_lt (Nat.lt_of_not_le later))
      exact ⟨lower, Nat.le_refl _, Nat.le_trans upper (Nat.le_trans (Nat.sub_le _ 1) memberInside)⟩

end Source

/-! ### Layouts -/

/-- The ways to divide the lines of a node that has members: all lines of the node down to the first
member and then the members, or only the members. -/
inductive Node.Layout (source : String) (node : Node) :
    (members : List Node) → (spans : List Span) → Prop where
  | container (members : List Node) :
      Layout source node members
        ((Source.headerSpan? source (node.span source)
            (members.head?.map fun member => (member.span source).startLine)).toList ++
          members.map (·.span source))
  | group (members : List Node) : Layout source node members (members.map (·.span source))

namespace Node

variable {source : String} {node : Node} {members : List Node} {spans : List Span}

/-- A node without members is one draft. -/
theorem Layout.whole {draft : Draft} (lines : draft.span = node.span source) :
    node.Layout source [] ([draft].map Draft.span) := by
  rw [List.map_singleton, lines]
  exact .container []

theorem Layout.nothing : node.Layout source [] [] :=
  .group []

/-- Whatever the layout, all lines are lines of the node. -/
theorem Layout.within (layout : node.Layout source members spans) (stands : node.Stands source)
    (membersStand : ∀ member ∈ members, member.Stands source)
    (inside : ∀ member ∈ members, node.start ≤ member.start ∧ member.stop ≤ node.stop)
    {span : Span} (listed : span ∈ spans) :
    span.startLine ≤ span.endLine ∧ span.Within (node.span source) := by
  have ofMember : ∀ span ∈ members.map (·.span source),
      span.startLine ≤ span.endLine ∧ span.Within (node.span source) := by
    intro span listed
    obtain ⟨member, among, rfl⟩ := List.mem_map.mp listed
    exact ⟨(membersStand member among).fits.2.1,
      (membersStand member among).within stands (inside member among).1 (inside member among).2⟩
  cases layout with
  | group => exact ofMember span listed
  | container =>
    rcases List.mem_append.mp listed with header | member
    · refine Source.headerSpan?_within stands.fits.2.1 ?_ (Option.mem_toList.mp header)
      intro first among
      obtain ⟨member, head, rfl⟩ := Option.map_eq_some_iff.mp among
      obtain ⟨proper, within⟩ := ofMember _ (List.mem_map_of_mem (List.mem_of_head? head))
      exact Nat.le_trans proper within.2
    · exact ofMember span member

end Node

namespace Grammar

/-- A grammar lays out the lines of nodes with members that are found below them. -/
structure LaysOut (grammar : Grammar) (members : Node → List Node) : Prop where
  below : ∀ node : Node, ∀ member ∈ members node, node.Below member
  layout : ∀ (source : String) (node : Node),
    node.Layout source (members node) ((grammar.drafts source node).map Draft.span)

end Grammar

theorem Node.mem_of_child? {node child : Node} {field : String}
    (found : node.child? field = some child) : child ∈ node.children :=
  List.mem_of_find?_eq_some found

/-! ### Python -/

namespace Grammar.Python

/-- The methods of a class, with their decorators. -/
def classMembers (definition : Node) : List Node :=
  (((definition.child? "body").elim [] Node.children).filterMap method?).map Decorated.outer

def definitionMembers (definition : Node) : List Node :=
  if definition.kind = "class_definition" then classMembers definition else []

/-- The nodes below a top-level node that become drafts on lines of their own. -/
def members (node : Node) : List Node :=
  match node.kind with
  | "function_definition" | "class_definition" => definitionMembers node
  | "decorated_definition" => (node.child? "definition").elim [] definitionMembers
  | _ => []

theorem outer_of_method? {statement : Node} {method : Decorated}
    (found : method? statement = some method) : method.outer = statement := by
  unfold method? at found
  split at found
  · cases found
    rfl
  · split at found
    · obtain ⟨definition, _, rfl⟩ := Option.map_eq_some_iff.mp found
      rfl
    · cases found

theorem below_of_classMembers {definition member : Node}
    (among : member ∈ classMembers definition) : definition.Below member := by
  unfold classMembers at among
  cases body : definition.child? "body" with
  | none => simp [body] at among
  | some block =>
    rw [body] at among
    obtain ⟨method, listed, rfl⟩ := List.mem_map.mp among
    obtain ⟨statement, child, found⟩ := List.mem_filterMap.mp listed
    rw [outer_of_method? found]
    exact .step (Node.mem_of_child? body) (.step child (.self statement))

@[simp]
theorem span_functionDraft (source : String) (function : Decorated) (parent : Option String) :
    (functionDraft source function parent).span = function.outer.span source := by
  simp [functionDraft]

theorem layout_classDrafts (source : String) (decorated : Decorated) :
    decorated.outer.Layout source (classMembers decorated.definition)
      ((classDrafts source decorated).map Draft.span) := by
  unfold classDrafts
  rw [Draft.map_span_header _ _ _ _ (fun method => method.outer.span source) (by simp) (by simp)]
  have laid : decorated.outer.Layout source (classMembers decorated.definition) _ := .container _
  rw [classMembers, List.map_map, List.head?_map, Option.map_map] at laid
  exact laid

theorem layout_definitionDrafts (source : String) (decorated : Decorated) :
    decorated.outer.Layout source (definitionMembers decorated.definition)
      ((definitionDrafts source decorated).map Draft.span) := by
  unfold definitionDrafts
  split
  next kind =>
    rw [definitionMembers, if_neg (by rw [kind]; decide)]
    exact .whole (span_functionDraft source decorated none)
  next kind =>
    rw [definitionMembers, if_pos kind]
    exact layout_classDrafts source decorated
  next _ noClass =>
    rw [definitionMembers, if_neg noClass]
    exact .nothing

theorem laysOut : python.LaysOut members where
  below := by
    have ofDefinition : ∀ definition : Node, ∀ member ∈ definitionMembers definition,
        definition.Below member := by
      intro definition member among
      unfold definitionMembers at among
      split at among
      · exact below_of_classMembers among
      · cases among
    intro node member among
    unfold members at among
    split at among
    · exact ofDefinition node member among
    · exact ofDefinition node member among
    · cases found : node.child? "definition" with
      | none => simp [found] at among
      | some definition =>
        rw [found] at among
        exact .step (Node.mem_of_child? found) (ofDefinition definition member among)
    · cases among
  layout := by
    intro source node
    show node.Layout source (members node) ((drafts source node).map Draft.span)
    unfold members
    split
    next kind =>
      simp only [drafts, kind]
      exact layout_definitionDrafts source ⟨node, node⟩
    next kind =>
      simp only [drafts, kind]
      exact layout_definitionDrafts source ⟨node, node⟩
    next kind =>
      simp only [drafts, kind]
      cases node.child? "definition" with
      | none => exact .nothing
      | some definition => exact layout_definitionDrafts source ⟨node, definition⟩
    next noFunction noClass undecorated =>
      unfold drafts
      split
      · contradiction
      · contradiction
      · contradiction
      · exact .whole rfl
      · exact .whole rfl
      · exact .whole rfl
      · exact .nothing

end Grammar.Python

/-! ### Rust -/

namespace Grammar.Rust

/-- The methods of an implementation. -/
def members (node : Node) : List Node :=
  if node.kind = "impl_item" then (node.child? "body").elim [] (·.childrenOfKind "function_item")
  else []

@[simp]
theorem span_noteVisibility (source : String) (node : Node) (draft : Draft) :
    (noteVisibility source node draft).span = draft.span := rfl

@[simp]
theorem span_functionDraft (source : String) (node : Node) (parent : Option String) :
    (functionDraft source node parent).span = node.span source := by
  simp [functionDraft]

theorem layout_implDrafts (source : String) (node : Node) :
    node.Layout source ((node.child? "body").elim [] (·.childrenOfKind "function_item"))
      ((implDrafts source node).map Draft.span) := by
  unfold implDrafts
  rw [Draft.map_span_header _ _ _ _ (·.span source) (by simp) (by simp)]
  exact .container _

theorem laysOut : rust.LaysOut members where
  below := by
    intro node member among
    unfold members at among
    split at among
    · cases body : node.child? "body" with
      | none => simp [body] at among
      | some block =>
        rw [body] at among
        exact .step (Node.mem_of_child? body) (.step (List.mem_filter.mp among).1 (.self member))
    · cases among
  layout := by
    intro source node
    show node.Layout source (members node) ((drafts source node).map Draft.span)
    by_cases kind : node.kind = "impl_item"
    · simp only [drafts, members, kind]
      exact layout_implDrafts source node
    · rw [members, if_neg kind]
      unfold drafts
      split
      · exact .whole (span_functionDraft source node none)
      · exact .whole rfl
      · exact .whole rfl
      · exact .whole rfl
      · exact .whole rfl
      · contradiction
      · exact .whole rfl
      · exact .whole rfl
      · split
        · exact .whole rfl
        · exact .nothing
      · exact .whole rfl
      · exact .nothing

end Grammar.Rust

/-! ### JavaScript and TypeScript -/

namespace Grammar.Script

/-- The methods of a class. -/
def classMembers (definition : Node) : List Node :=
  ((definition.child? "body").elim [] Node.namedChildren).filter (·.kind == "method_definition")

/-- The methods of a value that is a class. -/
def valueMembers (value : Node) : List Node :=
  if value.kind = "class" then classMembers value else []

/-- The methods of a class that is bound to the only name of a statement. -/
def bindingsMembers (declaration : Node) : List Node :=
  match declaration.namedChildren.filter (·.kind == "variable_declarator") with
  | [declarator] => (declarator.child? "value").elim [] valueMembers
  | _ => []

def declarationMembers (declaration : Node) : List Node :=
  match declaration.kind with
  | "class_declaration" | "abstract_class_declaration" => classMembers declaration
  | "lexical_declaration" | "variable_declaration" => bindingsMembers declaration
  | _ => []

def exportMembers (node : Node) : List Node :=
  match node.child? "declaration", node.child? "value" with
  | some declaration, _ => declarationMembers declaration
  | none, some value => valueMembers value
  | none, none => []

/-- The nodes below a top-level node that become drafts on lines of their own. -/
def members (node : Node) : List Node :=
  match node.kind with
  | "export_statement" => exportMembers node
  | "import_statement" => []
  | _ => declarationMembers node

theorem below_of_classMembers {definition member : Node}
    (among : member ∈ classMembers definition) : definition.Below member := by
  unfold classMembers at among
  cases body : definition.child? "body" with
  | none => simp [body] at among
  | some block =>
    rw [body] at among
    have named := (List.mem_filter.mp among).1
    exact .step (Node.mem_of_child? body) (.step (List.mem_filter.mp named).1 (.self member))

theorem below_of_valueMembers {value member : Node} (among : member ∈ valueMembers value) :
    value.Below member := by
  unfold valueMembers at among
  split at among
  · exact below_of_classMembers among
  · cases among

theorem below_of_declarationMembers {declaration member : Node}
    (among : member ∈ declarationMembers declaration) : declaration.Below member := by
  have ofBindings (among : member ∈ bindingsMembers declaration) : declaration.Below member := by
    unfold bindingsMembers at among
    split at among
    next declarator only =>
      have named : declarator ∈ declaration.namedChildren :=
        (List.mem_filter.mp (only ▸ List.mem_singleton_self declarator)).1
      cases found : declarator.child? "value" with
      | none => simp [found] at among
      | some value =>
        rw [found] at among
        exact .step (List.mem_filter.mp named).1
          (.step (Node.mem_of_child? found) (below_of_valueMembers among))
    · cases among
  unfold declarationMembers at among
  split at among
  · exact below_of_classMembers among
  · exact below_of_classMembers among
  · exact ofBindings among
  · exact ofBindings among
  · cases among

@[simp]
theorem span_callableDraft (source : String) (outer callable : Node) (name : String) :
    (callableDraft source outer callable name).span = outer.span source := by
  simp only [callableDraft, Draft.span_note, Draft.span_noteIf]
  split
  · rfl
  · split <;> simp

@[simp]
theorem span_applyTypeMark (name typeMark : String) (draft : Draft) :
    (applyTypeMark name typeMark draft).span = draft.span := by
  unfold applyTypeMark
  split <;> simp

@[simp]
theorem map_span_markExport (isDefault : Bool) (drafts : List Draft) :
    (markExport isDefault drafts).map Draft.span = drafts.map Draft.span := by
  cases drafts <;> rfl

theorem span_callDraft? {source : String} {outer call : Node} {name : String} {draft : Draft}
    (found : callDraft? source outer call name = some draft) : draft.span = outer.span source := by
  obtain ⟨callee, _, made⟩ := Option.bind_eq_some_iff.mp found
  dsimp only at made
  split at made
  · cases made
    simp
  · split at made
    · cases made
      simp
    · split at made
      · cases made
        simp
      · cases made

theorem layout_classDrafts (source : String) (outer definition : Node) (name : String) :
    outer.Layout source (classMembers definition)
      ((classDrafts source outer definition name).map Draft.span) := by
  unfold classDrafts
  rw [Draft.map_span_header _ _ _ _ (·.span source) (by simp) (fun _ => rfl)]
  exact .container _

theorem ne_class_of_isCallable {value : Node} (callable : isCallable value = true) :
    value.kind ≠ "class" := by
  intro kind
  rw [isCallable, kind] at callable
  exact absurd callable (by decide)

theorem layout_bindingDrafts (source : String) (outer declarator : Node) (exported : Bool) :
    outer.Layout source ((declarator.child? "value").elim [] valueMembers)
      ((bindingDrafts source outer declarator exported).map Draft.span) := by
  have plain : outer.Layout source [] ((if exported then
      [outer.draft source .exportDecl (declarator.fieldText "name" source) Confidence.high]
      else []).map Draft.span) := by
    split
    · exact .whole rfl
    · exact .nothing
  unfold bindingDrafts
  cases declarator.child? "value" with
  | none => exact plain
  | some value =>
    dsimp only [Option.elim_some]
    split
    next callable =>
      rw [valueMembers, if_neg (ne_class_of_isCallable callable)]
      exact .whole (by simp)
    · split
      next kind =>
        rw [valueMembers, if_neg (by rw [kind]; decide)]
        cases call : callDraft? source outer value (declarator.fieldText "name" source) with
        | none => exact plain
        | some draft => exact .whole (span_callDraft? call)
      · split
        next kind =>
          rw [valueMembers, if_pos kind]
          exact layout_classDrafts source outer value _
        next kind =>
          rw [valueMembers, if_neg kind]
          exact plain

theorem layout_bindingsDrafts (source : String) (outer declaration : Node) (exported : Bool) :
    outer.Layout source (bindingsMembers declaration)
      ((bindingsDrafts source outer declaration exported).map Draft.span) := by
  unfold bindingsMembers bindingsDrafts
  cases declaration.namedChildren.filter (·.kind == "variable_declarator") with
  | nil =>
    cases exported
    · exact .nothing
    · exact .whole rfl
  | cons declarator others =>
    cases others with
    | nil => exact layout_bindingDrafts source outer declarator exported
    | cons other rest =>
      cases exported
      · exact .nothing
      · exact .whole rfl

theorem layout_declarationDrafts (source : String) (outer declaration : Node) (exported : Bool) :
    outer.Layout source (declarationMembers declaration)
      ((declarationDrafts source outer declaration exported).map Draft.span) := by
  unfold declarationMembers
  split
  next kind =>
    simp only [declarationDrafts, kind]
    exact layout_classDrafts source outer declaration _
  next kind =>
    simp only [declarationDrafts, kind]
    exact layout_classDrafts source outer declaration _
  next kind =>
    simp only [declarationDrafts, kind]
    exact layout_bindingsDrafts source outer declaration exported
  next kind =>
    simp only [declarationDrafts, kind]
    exact layout_bindingsDrafts source outer declaration exported
  next noClass noAbstractClass noLexical noVariable =>
    unfold declarationDrafts
    split
    · exact .whole (span_callableDraft source outer declaration _)
    · exact .whole (span_callableDraft source outer declaration _)
    · contradiction
    · contradiction
    · contradiction
    · contradiction
    · exact .whole rfl
    · exact .whole rfl
    · exact .whole rfl
    · exact .whole rfl
    · exact .whole rfl
    · exact .nothing

theorem layout_valueDrafts (source : String) (node value : Node) (isDefault : Bool) :
    node.Layout source (valueMembers value)
      ((valueDrafts source node value isDefault).map Draft.span) := by
  unfold valueDrafts
  dsimp only
  split
  next callable =>
    rw [valueMembers, if_neg (ne_class_of_isCallable callable), map_span_markExport]
    exact .whole (span_callableDraft source node value _)
  · split
    next kind =>
      rw [valueMembers, if_pos kind, map_span_markExport]
      exact layout_classDrafts source node value _
    next kind =>
      rw [valueMembers, if_neg kind]
      exact .whole rfl

theorem layout_exportDrafts (source : String) (node : Node) :
    node.Layout source (exportMembers node) ((exportDrafts source node).map Draft.span) := by
  unfold exportMembers exportDrafts
  cases node.child? "declaration" with
  | some declaration =>
    dsimp only
    rw [map_span_markExport]
    exact layout_declarationDrafts source node declaration true
  | none =>
    cases node.child? "value" with
    | some value => exact layout_valueDrafts source node value _
    | none => exact .whole (by simp [nameListDraft])

theorem laysOut (language : Language) : (script language).LaysOut members where
  below := by
    intro node member among
    unfold members at among
    split at among
    · unfold exportMembers at among
      split at among
      next found => exact .step (Node.mem_of_child? found) (below_of_declarationMembers among)
      next found => exact .step (Node.mem_of_child? found) (below_of_valueMembers among)
      · cases among
    · cases among
    · exact below_of_declarationMembers among
  layout := by
    intro source node
    show node.Layout source (members node) ((drafts source node).map Draft.span)
    unfold members
    split
    next kind =>
      simp only [drafts, kind]
      exact layout_exportDrafts source node
    next kind =>
      simp only [drafts, kind]
      exact .whole rfl
    next noExport noImport =>
      unfold drafts
      split
      · contradiction
      · contradiction
      · exact layout_declarationDrafts source node node false

end Grammar.Script

/-! ### Go -/

namespace Grammar.Go

/-- The types of a declaration, unless there is just one of them. -/
def typeMembers (node : Node) : List Node :=
  match node.namedChildren.filter fun child =>
      child.kind == "type_spec" || child.kind == "type_alias" with
  | [_] => []
  | specs => specs

/-- The nodes below a top-level node that become drafts on lines of their own. -/
def members (node : Node) : List Node :=
  if node.kind = "type_declaration" then typeMembers node else []

@[simp]
theorem span_functionDraft (source : String) (node : Node) (parent : Option String) :
    (functionDraft source node parent).span = node.span source := by
  simp [functionDraft]

@[simp]
theorem span_typeDraft (source : String) (outer spec : Node) :
    (typeDraft source outer spec).span = outer.span source := by
  unfold typeDraft
  dsimp only
  split <;> rfl

theorem layout_typeDrafts (source : String) (node : Node) :
    node.Layout source (typeMembers node) ((typeDrafts source node).map Draft.span) := by
  unfold typeMembers typeDrafts
  cases node.namedChildren.filter fun child =>
      child.kind == "type_spec" || child.kind == "type_alias" with
  | nil => exact .nothing
  | cons spec others =>
    cases others with
    | nil => exact .whole (span_typeDraft source node spec)
    | cons other rest =>
      dsimp only
      rw [List.map_map, show Draft.span ∘ (fun spec => typeDraft source spec spec) = (·.span source)
        from funext fun spec => span_typeDraft source spec spec]
      exact .group _

theorem laysOut : go.LaysOut members where
  below := by
    intro node member among
    unfold members at among
    split at among
    · unfold typeMembers at among
      split at among
      · cases among
      · have named := (List.mem_filter.mp among).1
        exact .step (List.mem_filter.mp named).1 (.self member)
    · cases among
  layout := by
    intro source node
    show node.Layout source (members node) ((drafts source node).map Draft.span)
    by_cases kind : node.kind = "type_declaration"
    · simp only [drafts, members, kind]
      exact layout_typeDrafts source node
    · rw [members, if_neg kind]
      unfold drafts
      split
      · exact .whole (span_functionDraft source node none)
      · exact .whole (by simp [methodDraft])
      · contradiction
      · exact .whole rfl
      · exact .nothing

end Grammar.Go

/-! ### All languages -/

namespace Grammar

/-- The nodes below a top-level node that become drafts on lines of their own. -/
def membersOf : Language → Node → List Node
  | .python => Python.members
  | .rust => Rust.members
  | .javaScript | .typeScript | .tsx => Script.members
  | .go => Go.members

theorem laysOut_ofLanguage (language : Language) :
    (ofLanguage language).LaysOut (membersOf language) := by
  cases language with
  | python => exact Python.laysOut
  | rust => exact Rust.laysOut
  | javaScript => exact Script.laysOut _
  | typeScript => exact Script.laysOut _
  | tsx => exact Script.laysOut _
  | go => exact Go.laysOut

end Grammar

/-- A tree as a parser makes it of a text: nodes hold their children in order, and neither the
children of the root nor the nodes that become drafts are empty. -/
structure Node.Parses (language : Language) (text : String) (root : Node) : Prop where
  orderly : root.Orderly
  inside : root.stop ≤ text.utf8ByteSize
  filled : ∀ child ∈ root.children, child.start < child.stop
  membersFilled : ∀ child ∈ root.children, ∀ member ∈ Grammar.membersOf language child,
    member.start < member.stop

namespace Node.Parses

variable {language : Language} {text : String} {root child : Node}

theorem stands (parses : root.Parses language text) (among : child ∈ root.children) :
    child.Stands text :=
  ⟨parses.filled child among,
    Nat.le_trans (parses.orderly.bounds (.step among (.self child))).2 parses.inside⟩

theorem memberStands (parses : root.Parses language text) (among : child ∈ root.children)
    {member : Node} (listed : member ∈ Grammar.membersOf language child) : member.Stands text :=
  have below := (Grammar.laysOut_ofLanguage language).below child member listed
  ⟨parses.membersFilled child among member listed,
    Nat.le_trans (parses.orderly.bounds (.step among below)).2 parses.inside⟩

/-- The drafts of a top-level node stay on its lines. -/
theorem within (parses : root.Parses language text) (among : child ∈ root.children) {draft : Draft}
    (drafted : draft ∈ (Grammar.ofLanguage language).drafts text child) :
    draft.span.startLine ≤ draft.span.endLine ∧ draft.span.Within (child.span text) := by
  have laysOut := Grammar.laysOut_ofLanguage language
  refine (laysOut.layout text child).within (parses.stands among)
    (fun member listed => parses.memberStands among listed) ?_ (List.mem_map_of_mem drafted)
  intro member listed
  have orderly := parses.orderly.below (.step among (.self child))
  exact orderly.bounds (laysOut.below child member listed)

theorem outline_sorted (parses : root.Parses language text) :
    (root.children.map (·.span text)).Pairwise fun left right =>
      left.startLine ≤ right.startLine := by
  refine List.pairwise_map.mpr ?_
  refine (parses.orderly root (mem_preorder_self root)).2.imp_of_mem ?_
  intro left right leftAmong _ ordered
  have starts := Nat.le_trans (Nat.le_of_lt (parses.filled left leftAmong)) ordered
  exact Nat.add_le_add_right (Text.rowAt_mono starts _) 1

end Node.Parses

/-! ### The contract -/

/-- What is found in a text with a given tree. -/
structure Extraction.Describes (extraction : Extraction) (grammar : Grammar) (text : String)
    (root : Node) : Prop where
  row : extraction.drafts.Pairwise fun left right => left.span.Before right.span
  within : ∀ draft ∈ extraction.drafts, draft.span.startLine ≤ draft.span.endLine ∧
    ∃ child ∈ root.children, draft ∈ grammar.drafts text child ∧ draft.span.Within (child.span text)
  /-- Nothing is left out but what overlaps something else. -/
  complete : ∀ child ∈ root.children, ∀ draft ∈ grammar.drafts text child,
    draft ∈ extraction.drafts ∨
      ∃ other ∈ extraction.drafts, other.span.overlaps draft.span = true
  outline : extraction.outline = root.children.map (·.span text)
  outlineFits : ∀ span ∈ extraction.outline, span.Fits (LineIndex.ofText text).size
  outlineSorted : extraction.outline.Pairwise fun left right => left.startLine ≤ right.startLine
  recovered : extraction.recovered = root.hasError

theorem Node.Parses.describes {language : Language} {text : String} {root : Node}
    (parses : root.Parses language text) :
    ((Grammar.ofLanguage language).extract text root).Describes (Grammar.ofLanguage language) text
      root := by
  have proper : ∀ draft ∈ root.children.flatMap ((Grammar.ofLanguage language).drafts text),
      draft.span.isProper = true := by
    intro draft member
    obtain ⟨child, among, drafted⟩ := List.mem_flatMap.mp member
    obtain ⟨lines, within⟩ := parses.within among drafted
    have first := Nat.lt_of_lt_of_le (parses.stands among).fits.1 within.1
    exact Span.isProper_iff.mpr ⟨first, lines⟩
  obtain ⟨left, whole, makesWay⟩ :=
    settle_leftover (root.children.flatMap ((Grammar.ofLanguage language).drafts text))
  refine ⟨settle_row _, ?_, ?_, rfl, ?_, parses.outline_sorted, rfl⟩
  · intro draft member
    obtain ⟨child, among, drafted⟩ :=
      List.mem_flatMap.mp (whole.mem_iff.mpr (List.mem_append_left _ member))
    obtain ⟨lines, within⟩ := parses.within among drafted
    exact ⟨lines, child, among, drafted, within⟩
  · intro child among draft drafted
    have given := List.mem_flatMap.mpr ⟨child, among, drafted⟩
    refine (List.mem_append.mp (whole.mem_iff.mp given)).imp_right fun dropped => ?_
    obtain ⟨other, kept, overlap, -⟩ := makesWay draft dropped (proper draft given)
    exact ⟨other, kept, overlap⟩
  · intro span listed
    obtain ⟨child, among, rfl⟩ := List.mem_map.mp listed
    exact (parses.stands among).fits

/-- Every processor divides every text that has a tree. What it finds keeps to the lines of the
top-level nodes, and for a window of the same text it finds the same or, if there is an error in the
tree, nothing. -/
theorem Registry.standard_describes (trees : Trees) (language : Language) (text : String)
    (root : Node) (plain : '\x00' ∉ text.toList) (parsed : trees language text = some root)
    (parses : root.Parses language text) :
    ∃ processor extraction, Registry.standard trees language = some processor ∧
      processor.process text .file = .ok extraction ∧
      extraction.Describes (Grammar.ofLanguage language) text root ∧
      ∀ windowed, processor.process text .window = .ok windowed ↔
        root.hasError = false ∧ windowed = extraction := by
  have named : (Grammar.ofLanguage language).language = language := by
    cases language <;> rfl
  have readable : Text.containsChar '\x00' text = false := by
    rw [Text.containsChar, Bool.eq_false_iff]
    exact fun contained => plain (List.contains_iff_mem.mp contained)
  have processed : ∀ coverage, (Grammar.ofLanguage language).process trees text coverage =
      if root.hasError && coverage = .window then
        .error (.malformedInput language "syntax errors in reparse window")
      else .ok ((Grammar.ofLanguage language).extract text root) := by
    intro coverage
    rw [Grammar.process, readable, named, parsed]
    rfl
  refine ⟨_, _, rfl, ?_, parses.describes, fun windowed => ?_⟩
  · exact (processed .file).trans (if_neg (by simp))
  · show (Grammar.ofLanguage language).process trees text .window = _ ↔ _
    rw [processed .window]
    cases root.hasError with
    | true => simp
    | false => simp [eq_comm]

/-- A class with a blank line between its header and its method. -/
def Node.spacedClassText : String := "class A:\n\n  def f(self): pass\n"

def Node.spacedClass : Node :=
  let method : Node := ⟨"function_definition", 12, 29, true, false, none, []⟩
  let body : Node := ⟨"block", 12, 29, true, false, some "body", [method]⟩
  let name : Node := ⟨"identifier", 6, 7, true, false, some "name", []⟩
  let definition : Node := ⟨"class_definition", 0, 29, true, false, none, [name, body]⟩
  ⟨"module", 0, 30, true, false, none, [definition]⟩

theorem Registry.standard_describes_spacedClass :
    Node.spacedClass.Parses .python Node.spacedClassText ∧
      ∃ processor extraction,
        Registry.standard (fun _ _ => some Node.spacedClass) .python = some processor ∧
        processor.process Node.spacedClassText .file = .ok extraction ∧
        extraction.Describes (Grammar.ofLanguage .python) Node.spacedClassText Node.spacedClass ∧
        ∀ windowed, processor.process Node.spacedClassText .window = .ok windowed ↔
          Node.spacedClass.hasError = false ∧ windowed = extraction :=
  have parses : Node.spacedClass.Parses .python Node.spacedClassText :=
    ⟨by decide, by decide, by decide, by decide⟩
  ⟨parses, Registry.standard_describes _ .python _ Node.spacedClass (by decide) rfl parses⟩

end Chunking
