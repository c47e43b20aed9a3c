/-
Processors: what divides the texts of one language. A processor is a function
from texts to the constructs and top-level nodes that it finds, together with a
test of where a text may be cut so that the parts can be processed on their own.
-/

import Chunking.Draft
import Chunking.Error

namespace Chunking

/-- How much of a file a processor is given. -/
inductive Coverage where
  /-- The whole file; errors in it are passed over. -/
  | file
  /-- A window cut out of a file; any error in it is a failure. -/
  | window
  deriving DecidableEq, Repr

def Coverage.name : Coverage → String
  | .file => "file"
  | .window => "window"

/-- What a processor found in a text. -/
structure Extraction where
  drafts : List Draft
  /-- Whether errors had to be passed over. -/
  recovered : Bool
  /-- The lines of the top-level nodes. -/
  outline : List Span
  deriving Repr

structure Processor where
  language : Language
  process : String → Coverage → Except Error Extraction
  /-- Whether a window may start at a line, given the nearest line before it that is not blank. -/
  isBoundary : Option String → String → Bool

/-- The processors that there are for languages. -/
abbrev Registry := Language → Option Processor

namespace Registry

/-- The languages with a processor, in the order of all languages. -/
def languages (registry : Registry) : List Language :=
  Language.all.filter fun language => (registry language).isSome

def get (registry : Registry) (language : Language) : Except Error Processor :=
  match registry language with
  | some processor => .ok processor
  | none => .error (.unsupportedLanguage language.name)

def empty : Registry := fun _ => none

end Registry

end Chunking
