/-
Beginnings and ends of texts. Each question is put to the list of characters,
where the standard library knows what a beginning and an end of a list is.
-/

namespace Chunking.Text

/-- Whether the text begins with `mark`. -/
def startsWith (mark text : String) : Bool :=
  mark.toList.isPrefixOf text.toList

/-- Whether the text ends with `mark`. -/
def endsWith (mark text : String) : Bool :=
  mark.toList.isSuffixOf text.toList

/-- What follows `mark`, if the text begins with it. -/
def after? (mark text : String) : Option String :=
  if startsWith mark text then some (String.ofList (text.toList.drop mark.toList.length)) else none

/-- Whether `part` occurs somewhere among the characters. -/
def occursIn (part : List Char) : List Char → Bool
  | [] => part.isEmpty
  | char :: rest => part.isPrefixOf (char :: rest) || occursIn part rest

/-- Whether `part` occurs somewhere in the text. -/
def contains (part text : String) : Bool :=
  occursIn part.toList text.toList

def containsChar (char : Char) (text : String) : Bool :=
  text.toList.contains char

end Chunking.Text
