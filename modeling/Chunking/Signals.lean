/-
How much a draft is to be trusted. A few signals are gathered from the lines in
and around the draft, always in the text of the whole file, so that a draft
found in a part of it scores the same. The score starts from what the processor
says and is corrected, in single precision and in a fixed order, by each signal.
-/

import Chunking.Draft
import Chunking.Language

namespace Chunking

open Number

/-- Structural evidence about a draft. -/
structure Signals where
  named : Bool
  /-- The brackets inside the draft balance; languages without braces are not looked at. -/
  balanced : Bool
  clean : Bool
  /-- A comment stands in front of the draft, or it documents itself. -/
  documented : Bool
  lineCount : Nat
  deriving DecidableEq, Repr

namespace Signals

/-- A line, its leading space removed, that is a comment or inside of one. -/
def isComment (language : Language) (line : String) : Bool :=
  Text.startsWith language.commentMark line
    || (language.usesBraces && (Text.startsWith "/*" line || Text.startsWith "*" line))

/-- The part of a line before the first double slash. -/
def beforeSlashes : List Char → List Char
  | '/' :: '/' :: _ => []
  | char :: rest => char :: beforeSlashes rest
  | [] => []

/-- How many more brackets a character opens than it closes. -/
def bracketStep (char : Char) : Int :=
  if ['\x7b', '(', '['].contains char then 1
  else if ['\x7d', ')', ']'].contains char then -1
  else 0

/-- The brackets opened less those closed on a line. -/
def bracketBalance (line : String) : Int :=
  ((beforeSlashes line.toList).map bracketStep).foldr (· + ·) 0

def bracketsBalanced (body : List String) : Bool :=
  (body.map bracketBalance).foldr (· + ·) 0 == 0

/-- Whether the metadata says that the construct carries its own documentation. -/
def hasDocstring (metadata : Metadata) : Bool :=
  ((metadata.get? "has_docstring").bind Json.asBool?).getD false

/-- Gathers the signals of a draft from the lines of the file that it lies in. -/
def inspect (draft : Draft) (language : Language) (lines : List String) : Signals :=
  let start := min (draft.span.startLine - 1) lines.length
  let stop := max (min draft.span.endLine lines.length) start
  let body := (lines.drop start).take (stop - start)
  let preceding := if start = 0 then none else lines[start - 1]?
  { named := !Text.isBlankText draft.name
    balanced := !language.usesBraces || bracketsBalanced body
    clean := !draft.hasErrors
    documented := preceding.any (fun line => isComment language (Text.trimStart line))
      || hasDocstring draft.metadata
    lineCount := stop - start }

end Signals

/-! ### The score -/

namespace Confidence

def errorFactor : Single := Binary.ofDecimal false 6 (-1)

def imbalancePenalty : Single := Binary.ofDecimal false 15 (-2)

def namelessPenalty : Single := Binary.ofDecimal false 1 (-1)

def documentationBonus : Single := Binary.ofDecimal false 5 (-2)

def zero : Single := Binary.ofNat 0

def one : Single := Binary.ofNat 1

/-- Brings a number into the interval from zero to one; what is no number becomes zero. -/
def clamp (number : Single) : Single :=
  if number.isNaN then zero
  else if number.lt zero then zero
  else if one.lt number then one
  else number

end Confidence

open Confidence in
/-- The confidence in a draft, from what its processor says and from its signals. -/
def Signals.score (signals : Signals) (raw : Single) : Single :=
  let scored := if signals.clean then raw else raw.mul errorFactor
  let scored := if signals.balanced then scored else scored.sub imbalancePenalty
  let scored := if signals.named then scored else scored.sub namelessPenalty
  let scored := if signals.documented then scored.add documentationBonus else scored
  clamp scored

end Chunking
