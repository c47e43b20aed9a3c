/-
Blank characters and what is done with them: trimming a text at its ends and
splitting it into words. Blank means the Unicode property White_Space, so the
no-break space, the ideographic space and the line separator count, and the
zero-width space does not.
-/

import Chunking.Text.Run

namespace Chunking.Text

/-- The code points with the property White_Space. -/
def blankRuns : List Run :=
  [⟨0x9, 0xD, 1⟩, ⟨0x20, 0x20, 1⟩, ⟨0x85, 0x85, 1⟩, ⟨0xA0, 0xA0, 1⟩, ⟨0x1680, 0x1680, 1⟩,
   ⟨0x2000, 0x200A, 1⟩, ⟨0x2028, 0x2029, 1⟩, ⟨0x202F, 0x202F, 1⟩, ⟨0x205F, 0x205F, 1⟩,
   ⟨0x3000, 0x3000, 1⟩]

def isBlank (char : Char) : Bool :=
  inRuns blankRuns char

/-! ### Trimming -/

/-- The characters without the last ones that satisfy `drop`. -/
def dropEndWhile (drop : Char → Bool) (chars : List Char) : List Char :=
  (chars.reverse.dropWhile drop).reverse

def trimStart (text : String) : String :=
  String.ofList (text.toList.dropWhile isBlank)

def trimEnd (text : String) : String :=
  String.ofList (dropEndWhile isBlank text.toList)

def trim (text : String) : String :=
  String.ofList (dropEndWhile isBlank (text.toList.dropWhile isBlank))

/-- A text of which nothing is left after trimming. -/
def isBlankText (text : String) : Bool :=
  text.toList.all isBlank

/-- Removes every leading occurrence of one character. -/
def trimStartOf (mark : Char) (text : String) : String :=
  String.ofList (text.toList.dropWhile (· == mark))

/-- Removes every trailing occurrence of one character. -/
def trimEndOf (mark : Char) (text : String) : String :=
  String.ofList (dropEndWhile (· == mark) text.toList)

/-- Removes at both ends the characters that occur in `marks`. -/
def trimOf (marks : List Char) (text : String) : String :=
  String.ofList (dropEndWhile marks.contains (text.toList.dropWhile marks.contains))

/-! ### Words -/

/-- Cuts characters at each one that satisfies `separates`. The pieces between two
neighbouring separators are empty and are kept. -/
def splitWhere (separates : Char → Bool) : List Char → List (List Char)
  | [] => [[]]
  | char :: rest =>
    if separates char then [] :: splitWhere separates rest
    else
      match splitWhere separates rest with
      | [] => [[char]]
      | piece :: pieces => (char :: piece) :: pieces

/-- The maximal stretches of a text without blank characters. -/
def words (text : String) : List String :=
  ((splitWhere isBlank text.toList).filter (!·.isEmpty)).map String.ofList

/-- The pieces of a text between the occurrences of one character. -/
def splitAt (mark : Char) (text : String) : List String :=
  (splitWhere (· == mark) text.toList).map String.ofList

end Chunking.Text
