/-
Processors for languages with a grammar. All of them parse a text into a tree,
take the drafts of each child of the root in order, and settle them; the outline
is made of the same children. A grammar says which drafts a child gives and where
its language allows cuts.
-/

import Chunking.Processor
import Chunking.Processor.Boundary
import Chunking.Text.Affix
import Chunking.Tree.Source

namespace Chunking

structure Grammar where
  language : Language
  boundary : BoundaryRule
  /-- The drafts of a child of the root in a text. -/
  drafts : (source : String) → Node → List Draft

/-- What a parser of the languages answers. -/
abbrev Trees := Language → String → Option Node

namespace Grammar

/-- What a grammar finds in a text with a given tree. -/
def extract (grammar : Grammar) (source : String) (root : Node) : Extraction :=
  { drafts := settle (root.children.flatMap (grammar.drafts source))
    recovered := root.hasError
    outline := root.children.map (·.span source) }

def process (grammar : Grammar) (trees : Trees) (text : String) (coverage : Coverage) :
    Except Error Extraction :=
  if Text.containsChar '\x00' text then
    .error (.malformedInput grammar.language "input contains NUL bytes")
  else
    match trees grammar.language text with
    | none => .error (.malformedInput grammar.language "parser produced no tree")
    | some root =>
      if root.hasError && coverage = .window then
        .error (.malformedInput grammar.language "syntax errors in reparse window")
      else .ok (grammar.extract text root)

def processor (grammar : Grammar) (trees : Trees) : Processor :=
  { language := grammar.language
    process := grammar.process trees
    isBoundary := grammar.boundary.allows }

end Grammar

end Chunking
