/-
Nodes in their text: what a node says, on which lines it stands, and the draft
that covers it. A node that ends at the very beginning of a row does not reach
into that row.
-/

import Chunking.Draft
import Chunking.Text.Blank
import Chunking.Text.Bytes
import Chunking.Text.Lines
import Chunking.Tree.Node

namespace Chunking

open Number

namespace Node

/-- The text of a node. -/
def text (node : Node) (source : String) : String :=
  (Text.byteSlice? node.start node.stop source).getD ""

/-- The text of the child that fills a field. -/
def fieldText? (node : Node) (field source : String) : Option String :=
  (node.child? field).map (·.text source)

/-- The text of a field, or nothing. -/
def fieldText (node : Node) (field source : String) : String :=
  (node.fieldText? field source).getD ""

/-- The lines of a node. -/
def span (node : Node) (source : String) : Span :=
  let startLine := Text.rowAt node.start source.toList + 1
  let endRow := Text.rowAt node.stop source.toList
  let endLine :=
    if Text.startsRow true node.stop source.toList && startLine < endRow + 1 then endRow
    else endRow + 1
  ⟨startLine, max endLine startLine⟩

/-- The text of a node up to its body. -/
def signature (node : Node) (source : String) : String :=
  let stop := (node.child? "body").elim node.stop Node.start
  Text.trim ((Text.byteSlice? node.start stop source).getD "")

/-- A draft on the lines of a node. -/
def draft (node : Node) (source : String) (kind : Kind) (name : String) (confidence : Single) :
    Draft :=
  { kind, name, span := node.span source, rawConfidence := confidence, hasErrors := node.hasError }

end Node

/-! ### Headers -/

namespace Source

/-- Whether a line, counted from one, is blank or not there at all. -/
def isBlankLine (lines : List String) (line : Nat) : Bool :=
  line == 0 || (lines[line - 1]?).all Text.isBlankText

/-- The last line from `line` upwards that is not blank, but at the latest line `start`. -/
def lastFilled (lines : List String) (start : Nat) : (line : Nat) → Nat
  | 0 => 0
  | line + 1 =>
    if start < line + 1 && isBlankLine lines (line + 1) then lastFilled lines start line
    else line + 1

/-- The lines of a container down to the last filled line before its first member; a container
whose first member stands on its first line has none of its own. -/
def headerSpan? (source : String) (span : Span) (firstMember : Option Nat) : Option Span :=
  match firstMember with
  | none => some span
  | some member =>
    if member ≤ span.startLine then none
    else some ⟨span.startLine, lastFilled (Text.plainLines source) span.startLine (member - 1)⟩

end Source

/-! ### Confidences -/

namespace Confidence

/-- The confidence in constructs that a grammar names outright. -/
def certain : Single := Binary.ofDecimal false 95 (-2)

def high : Single := usualConfidence

/-- The confidence in constructs that are recognised by the function that makes them. -/
def wrapped : Single := Binary.ofDecimal false 85 (-2)

/-- The confidence in constructs that only may be worth a chunk. -/
def moderate : Single := Binary.ofDecimal false 8 (-1)

end Confidence

end Chunking
