/-
The languages whose texts can be divided into chunks, and how a language is
recognised: by the extension of a file, or by a name that someone typed. Names
and extensions are compared after lowering, names also after trimming.
-/

import Chunking.Text.Blank
import Chunking.Text.Lowercase
import Chunking.Text.Path

namespace Chunking

inductive Language where
  | python
  | rust
  | javaScript
  | typeScript
  | tsx
  | go
  deriving DecidableEq, Repr, Inhabited

namespace Language

/-- All languages, in their order. -/
def all : List Language := [.python, .rust, .javaScript, .typeScript, .tsx, .go]

def name : Language → String
  | .python => "python"
  | .rust => "rust"
  | .javaScript => "javascript"
  | .typeScript => "typescript"
  | .tsx => "tsx"
  | .go => "go"

/-- The place of a language in the order of all languages. -/
def rank : Language → Nat
  | .python => 0
  | .rust => 1
  | .javaScript => 2
  | .typeScript => 3
  | .tsx => 4
  | .go => 5

/-- The language with exactly this name. -/
def named? (text : String) : Option Language :=
  all.find? (·.name == text)

def ofExtension? (extension : String) : Option Language :=
  match Text.toLowercase extension with
  | "py" | "pyw" => some .python
  | "rs" => some .rust
  | "js" | "mjs" | "cjs" | "jsx" => some .javaScript
  | "ts" | "mts" | "cts" => some .typeScript
  | "tsx" => some .tsx
  | "go" => some .go
  | _ => none

def ofPath? (path : String) : Option Language :=
  (Text.Path.extension? path).bind ofExtension?

/-- The form in which a typed name is compared. -/
def folded (text : String) : String :=
  Text.toLowercase (Text.trim text)

/-- The language that a typed name or one of its short forms stands for. -/
def ofName? (text : String) : Option Language :=
  match folded text with
  | "python" | "py" => some .python
  | "rust" | "rs" => some .rust
  | "javascript" | "js" | "jsx" => some .javaScript
  | "typescript" | "ts" => some .typeScript
  | "tsx" => some .tsx
  | "go" | "golang" => some .go
  | _ => none

/-- Whether blocks stand between braces, and not behind indentation. -/
def usesBraces : Language → Bool
  | .python => false
  | _ => true

/-- What a comment up to the end of the line begins with. -/
def commentMark : Language → String
  | .python => "#"
  | _ => "//"

end Language

end Chunking
