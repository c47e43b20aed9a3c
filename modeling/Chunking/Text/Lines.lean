/-
Lines of a text. A line ends after each line feed, and what follows the last
line feed is a line of its own if it is not empty. Two readings of a line's
content are in use. A terminator is a line feed with the carriage return in
front of it, if there is one; the plain reading removes exactly that, so a
carriage return at the very end of the text stays. The other reading, that of
the line index, removes the carriage return there too.
-/

namespace Chunking.Text

/-- Cuts characters after each line feed. -/
def cutLines : List Char → List (List Char)
  | [] => []
  | char :: rest =>
    if char = '\n' then [char] :: cutLines rest
    else
      match cutLines rest with
      | [] => [[char]]
      | line :: lines => (char :: line) :: lines

/-- The lines of a text, each with its terminator. -/
def rawLines (text : String) : List String :=
  (cutLines text.toList).map String.ofList

/-- Removes the last character if it is `mark`. -/
def dropFinal (mark : Char) (chars : List Char) : List Char :=
  if chars.getLast? = some mark then chars.dropLast else chars

/-- Removes a line feed at the end and then a carriage return at the end. -/
def stripEnding (line : String) : String :=
  String.ofList (dropFinal '\r' (dropFinal '\n' line.toList))

/-- Removes a line feed at the end together with a carriage return before it. -/
def stripTerminator (line : String) : String :=
  if line.toList.getLast? = some '\n' then stripEnding line else line

/-- The contents of the lines of a text, without their terminators. -/
def plainLines (text : String) : List String :=
  (rawLines text).map stripTerminator

end Chunking.Text
