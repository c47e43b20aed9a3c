/-
The processors for all languages, made from their grammars and a parser.
-/

import Chunking.Grammar.Go
import Chunking.Grammar.Python
import Chunking.Grammar.Rust
import Chunking.Grammar.Script

namespace Chunking

namespace Grammar

/-- The grammar of a language. -/
def ofLanguage : Language → Grammar
  | .python => python
  | .rust => rust
  | .javaScript => script .javaScript
  | .typeScript => script .typeScript
  | .tsx => script .tsx
  | .go => go

end Grammar

/-- Processors for all languages on top of a parser. -/
def Registry.standard (trees : Trees) : Registry := fun language =>
  some ((Grammar.ofLanguage language).processor trees)

end Chunking
