/-
Where a text may be cut, judged by two lines: the line that comes first behind
the cut, which has to look like the beginning of a construct, and the nearest
line before it, which must not reach for the next one. Languages differ in the
words that continue a construct and in the lines that reach for the next.
-/

import Chunking.Text.Affix
import Chunking.Text.Alphanumeric
import Chunking.Text.Blank

namespace Chunking

namespace Boundary

/-- Characters with which no construct begins. -/
def continuingMarks : List Char :=
  ['\x7d', ')', ']', '\x7b', '.', ',', ';', '?', ':', '|', '&', '+', '-', '*', '=', '<', '>', '%',
   '^']

/-- Whether a line begins a construct: it is not indented, and neither its first character nor
its first word continues what came before. -/
def beginsConstruct (continuations : List String) (line : String) : Bool :=
  match line.toList with
  | [] => false
  | first :: _ =>
    !Text.isBlank first && !continuingMarks.contains first
      && !continuations.contains (String.ofList (line.toList.takeWhile Text.isNameChar))

/-- A decorator or an attribute, which belongs to the line that follows. -/
def isAttachment (line : String) : Bool :=
  Text.startsWith "@" line || Text.startsWith "#[" line

/-- A line that ends in a mark, blanks aside. -/
def endsIn (mark line : String) : Bool :=
  Text.endsWith mark (Text.trimEnd line)

end Boundary

/-- How the lines around a cut are judged. -/
structure BoundaryRule where
  /-- First words that continue a construct. -/
  continuations : List String := []
  /-- Whether a line belongs together with the next one. -/
  reachesOn : String → Bool := Boundary.isAttachment

/-- Whether a text may be cut in front of a line. -/
def BoundaryRule.allows (rule : BoundaryRule) (previous : Option String) (line : String) : Bool :=
  Boundary.beginsConstruct rule.continuations line && !previous.any rule.reachesOn

end Chunking
