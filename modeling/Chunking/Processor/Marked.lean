/-
A processor for marked texts, in which each construct says on its first line
what it is. It is independent of any grammar and can be made to misbehave: there
are marks for errors, for top-level nodes and constructs at any lines, and for
leaving the constructs unsettled. That makes it the means to bring the engine
into every state.
-/

import Chunking.Number.Numeral
import Chunking.Processor
import Chunking.Processor.Boundary
import Chunking.Text.Lines
import Chunking.Word

namespace Chunking

open Number

namespace Marked

/-- What has been found in a text. -/
structure Findings where
  drafts : List Draft := []
  outline : List Span := []
  hasError : Bool := false
  /-- Whether the constructs are to be left as they were found. -/
  unsettled : Bool := false

namespace Findings

/-- The findings of two stretches of text, one after the other. -/
def append (first second : Findings) : Findings :=
  { drafts := first.drafts ++ second.drafts
    outline := first.outline ++ second.outline
    hasError := first.hasError || second.hasError
    unsettled := first.unsettled || second.unsettled }

def node (startLine endLine : Nat) : Findings :=
  { outline := [⟨startLine, endLine⟩] }

end Findings

/-! ### Single marks -/

/-- An offset that is written as a word; a word that is missing, or no number of 64 bits, counts
as zero. -/
def offset (word : Option String) : Int :=
  let number := word.bind fun word => signedInteger? word.toList
  (number.filter fun number =>
    -(Word.signedLimit : Int) ≤ number && number < Word.signedLimit).getD 0

/-- A line at an offset; no line comes before line zero. -/
def lineAt (number : Nat) (word : Option String) : Nat :=
  (number + offset word).toNat

/-- A node anywhere: the mark, and offsets of its first and last line. -/
def looseNode (number : Nat) (words : List String) : Findings :=
  .node (lineAt number words[1]?) (lineAt number words[2]?)

/-- A construct anywhere: the mark, its kind, its name, offsets of its first and last line, and
a confidence. -/
def looseDraft (number : Nat) (words : List String) : Draft :=
  { kind := (words[1]?.bind Kind.ofTag?).getD .other
    name := match words[2]? with
      | none | some "-" => ""
      | some name => name
    span := ⟨lineAt number words[3]?, lineAt number words[4]?⟩
    rawConfidence := (words[5]?.bind ofText?).getD usualConfidence }

def isIndented (line : String) : Bool :=
  Text.startsWith " " line || Text.startsWith "\t" line

/-- A construct with the indented lines that follow its first line. -/
def construct (number : Nat) (kind : Kind) (line : String) (body : List String) : Findings :=
  let broken := body.any fun line => Text.trim line == "!"
  let documented := body.any fun line => Text.startsWith "\"\"\"" (Text.trimStart line)
  let draft : Draft :=
    { kind
      name := Text.trim ((Text.after? kind.tag line).getD "")
      span := ⟨number, number + body.length⟩
      hasErrors := broken }
  let counted := draft.note "lines" (.nat (body.length + 1))
  { drafts := [if documented then counted.note "has_docstring" (.bool true) else counted]
    outline := [⟨number, number + body.length⟩]
    hasError := broken }

/-- The kind of construct that a line begins with. -/
def kindOf? (line : String) : Option Kind :=
  ((Text.words line).head?.bind Kind.ofTag?).filter fun kind => Text.startsWith kind.tag line

/-- How many lines a bracketed stretch has behind its first one, if it is closed. -/
def closing? (rest : List String) : Option Nat :=
  (rest.findIdx? (Text.startsWith "]]")).map (· + 1)

/-! ### The whole text -/

/-- What a line begins, and how many of the lines that follow belong to it. -/
def readLine (number : Nat) (line : String) (rest : List String) : Findings × Nat :=
  if Text.isBlankText line then ({}, 0)
  else if Text.startsWith "[[" line then
    match closing? rest with
    | some count => (.node number (number + count), count)
    | none => ({ Findings.node number (number + rest.length) with hasError := true }, rest.length)
  else if Text.startsWith "!" line then ({ Findings.node number number with hasError := true }, 0)
  else if line = "%%" then ({ Findings.node number number with unsettled := true }, 0)
  else if Text.startsWith "%" line then (looseNode number (Text.words line), 0)
  else if Text.startsWith "~" line then
    ({ Findings.node number number with drafts := [looseDraft number (Text.words line)] }, 0)
  else
    match kindOf? line with
    | some kind =>
      let body := rest.takeWhile isIndented
      (construct number kind line body, body.length)
    | none => (.node number number, 0)

/-- Reads all lines from line `number` on, after passing over the first `skip` of them. -/
def readLines : (number skip : Nat) → List String → Findings
  | _, _, [] => {}
  | number, skip + 1, _ :: rest => readLines (number + 1) skip rest
  | number, 0, line :: rest =>
    let (found, count) := readLine number line rest
    found.append (readLines (number + 1) count rest)

def process (language : Language) (text : String) (coverage : Coverage) :
    Except Error Extraction :=
  if Text.containsChar '\x00' text then .error (.malformedInput language "toy NUL")
  else
    let found := readLines 1 0 (Text.plainLines text)
    if found.hasError && coverage = .window then
      .error (.malformedInput language "toy syntax error")
    else
      .ok { drafts := if found.unsettled then found.drafts else settle found.drafts
            recovered := found.hasError
            outline := found.outline }

def processor (language : Language) : Processor :=
  { language, process := process language, isBoundary := ({} : BoundaryRule).allows }

/-- Marked texts in place of every language. -/
def registry : Registry := fun language => some (processor language)

end Marked

end Chunking
