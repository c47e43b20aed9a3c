/-
What can go wrong while texts are divided into chunks. A recoverable error only
means that a cheaper way failed and the whole text has to be parsed; a defect
means that the engine broke its own rules.
-/

import Chunking.Language

namespace Chunking

inductive Error where
  /-- A processor could not divide its input. -/
  | malformedInput (language : Language) (reason : String)
  /-- No trustworthy comparison of two texts was found. -/
  | diffInconclusive (reason : String)
  | cacheMiss (file : String)
  /-- A version breaks the rules that every version has to keep. -/
  | invariantViolation (file detail : String)
  /-- The parse of the whole text failed. -/
  | parseFailed (file reason : String)
  | unsupportedLanguage (name : String)
  | invalidConfig (reason : String)
  | cancelled (file : String)
  deriving DecidableEq, Repr

namespace Error

def message : Error → String
  | .malformedInput language reason => "Malformed " ++ language.name ++ " input: " ++ reason
  | .diffInconclusive reason => "Diff inconclusive: " ++ reason
  | .cacheMiss file => "No cached version for " ++ file
  | .invariantViolation file detail => "Invariant violated for " ++ file ++ ": " ++ detail
  | .parseFailed file reason => "Failed to parse " ++ file ++ ": " ++ reason
  | .unsupportedLanguage name => "Unsupported language: " ++ name
  | .invalidConfig reason => "Invalid configuration: " ++ reason
  | .cancelled file => "Parse of " ++ file ++ " was cancelled"

/-- Whether parsing the whole text may still succeed. -/
def isRecoverable : Error → Bool
  | .malformedInput .. => true
  | .diffInconclusive _ => true
  | _ => false

/-- Whether the engine itself is to blame. -/
def isDefect : Error → Bool
  | .invariantViolation .. => true
  | _ => false

end Error

/-- The language that a typed name stands for. -/
def Language.ofName (text : String) : Except Error Language :=
  match Language.ofName? text with
  | some language => .ok language
  | none => .error (.unsupportedLanguage (Language.folded text))

/-- Why a command failed: what was being done, and the error below it if there is one. -/
structure Failure where
  message : String
  cause : Option Error := none
  deriving DecidableEq, Repr

/-- An error on its own, without a word about what was being done. -/
def Failure.ofError (error : Error) : Failure :=
  ⟨error.message, some error⟩

/-- A number that does not fit. No command gets over that. -/
def Failure.overflow : Failure :=
  ⟨"attempt to add with overflow", none⟩

end Chunking
