/-
Drafts: the constructs that a processor finds in a text, before they are scored
and get an id. A processor may find constructs inside of others; settling keeps
of overlapping drafts the one that starts first, and of those that start on the
same line the longest.
-/

import Chunking.Json.Basic
import Chunking.Span

namespace Chunking

open Number

/-- What sort of construct a chunk holds. -/
inductive Kind where
  | function
  | method
  | classDef
  | component
  | hook
  | context
  | importDecl
  | exportDecl
  | traitDef
  | implBlock
  | other
  deriving DecidableEq, Repr, Inhabited

namespace Kind

def all : List Kind :=
  [.function, .method, .classDef, .component, .hook, .context, .importDecl, .exportDecl, .traitDef,
   .implBlock, .other]

/-- The name of the kind in ids and in data. -/
def tag : Kind → String
  | .function => "function"
  | .method => "method"
  | .classDef => "class"
  | .component => "component"
  | .hook => "hook"
  | .context => "context"
  | .importDecl => "import"
  | .exportDecl => "export"
  | .traitDef => "trait"
  | .implBlock => "impl"
  | .other => "other"

def ofTag? (tag : String) : Option Kind :=
  all.find? (·.tag == tag)

end Kind

/-- What a processor has to say about a construct beyond its kind and name. -/
abbrev Metadata := Dictionary Json

/-- The confidence of a draft about which nothing else is known. -/
def usualConfidence : Single := Binary.ofDecimal false 9 (-1)

/-- A construct found by a processor; its lines are counted in the processed text. -/
structure Draft where
  kind : Kind
  name : String
  span : Span
  rawConfidence : Single := usualConfidence
  /-- Whether the construct holds parts that could not be parsed. -/
  hasErrors : Bool := false
  metadata : Metadata := {}
  deriving Repr

namespace Draft

/-- The draft with one more entry of metadata. -/
def note (draft : Draft) (key : String) (value : Json) : Draft :=
  { draft with metadata := draft.metadata.insert key value }

/-- The draft with an entry of metadata if there is a value for it. -/
def noteIf (draft : Draft) (key : String) (value : Option Json) : Draft :=
  value.elim draft (draft.note key)

/-- The draft moved down by a number of lines. -/
def offset (draft : Draft) (lines : Nat) : Draft :=
  { draft with span := draft.span.offset lines }

end Draft

namespace Span

/-- The order in which overlaps are resolved: by first line, and longest first. -/
def widestFirst (left right : Span) : Bool :=
  left.startLine < right.startLine
    || (left.startLine == right.startLine && right.endLine ≤ left.endLine)

/-- A span that holds at least one line of a text. -/
def isProper (span : Span) : Bool :=
  0 < span.startLine && span.startLine ≤ span.endLine

/-- Of items in a row, keeps each one whose span does not overlap that of the last one kept. -/
def dropOverlaps {α : Type} (spanOf : α → Span) : Option Span → List α → List α
  | _, [] => []
  | last, item :: rest =>
    if last.any (·.overlaps (spanOf item)) then dropOverlaps spanOf last rest
    else item :: dropOverlaps spanOf (some (spanOf item)) rest

end Span

/-- Sorts drafts and drops those without lines and those that overlap an earlier, wider one. -/
def settle (drafts : List Draft) : List Draft :=
  let sorted := drafts.mergeSort fun left right => left.span.widestFirst right.span
  Span.dropOverlaps Draft.span none (sorted.filter (·.span.isProper))

end Chunking
