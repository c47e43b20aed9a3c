/-
Paths written with slashes. The components of a path are what stands between
the slashes; empty ones and single dots name no step and are left out. The
extension is taken from the last component, and a name whose only dot comes
first has none.
-/

import Chunking.Text.Affix
import Chunking.Text.Blank

namespace Chunking.Text.Path

def isAbsolute (path : String) : Bool :=
  startsWith "/" path

/-- The steps of a path, without empty ones and single dots. -/
def components (path : String) : List String :=
  (splitAt '/' path).filter fun part => part != "" && part != "."

/-- The last segment after a slash, which may be empty. -/
def lastSegment (path : String) : String :=
  (splitAt '/' path).getLastD path

/-- The last component, unless it leads upwards. -/
def fileName? (path : String) : Option String :=
  match (components path).getLast? with
  | some ".." => none
  | name => name

/-- Splits a name at its last dot into what stands before and after it. -/
def splitLastDot? (name : String) : Option (String × String) :=
  match name.toList.reverse.span (· != '.') with
  | (_, []) => none
  | (tail, _ :: head) => some (String.ofList head.reverse, String.ofList tail.reverse)

/-- What follows the last dot of the file name, if something stands before that dot. -/
def extension? (path : String) : Option String :=
  match (fileName? path).bind splitLastDot? with
  | some ("", _) => none
  | some (_, extension) => some extension
  | none => none

/-- Puts a path behind a directory. An absolute path replaces the directory. -/
def join (directory path : String) : String :=
  if isAbsolute path then path
  else if endsWith "/" directory then directory ++ path
  else directory ++ "/" ++ path

end Chunking.Text.Path
