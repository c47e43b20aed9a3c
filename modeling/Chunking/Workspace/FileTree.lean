/-
A tree of files. Every file and directory is entered under its absolute path,
and all directories above it are entered, too; the topmost directory is always
there. Paths that someone writes may contain dots and empty steps and may lead
upwards, so they are walked step by step, and each step has to start from a
directory.
-/

import Chunking.Archive
import Chunking.Text.Path

namespace Chunking

/-- What stands at a place of the tree. -/
inductive FileTree.Entry where
  | directory
  | file (content : ByteArray)
  /-- A file that holds an archive. -/
  | archive (archive : Archive)

structure FileTree where
  entries : Dictionary FileTree.Entry := {}
  /-- Where relative paths begin. -/
  workingDirectory : String := "/"

namespace FileTree

/-- The steps from the topmost directory to a place. -/
abbrev Place := List String

/-- The absolute path of a place. -/
def pathOf (place : Place) : String :=
  "/" ++ String.intercalate "/" place

def entry? (tree : FileTree) (place : Place) : Option Entry :=
  if place.isEmpty then some .directory else tree.entries.get? (pathOf place)

def isDirectory (tree : FileTree) (place : Place) : Bool :=
  match tree.entry? place with
  | some .directory => true
  | _ => false

/-! ### Finding -/

/-- Where a path begins. -/
def start (tree : FileTree) (path : String) : Place :=
  if Text.Path.isAbsolute path then [] else Text.Path.components tree.workingDirectory

/-- Follows the steps of a path from a place. -/
def walk (tree : FileTree) : (place : Place) → (steps : List String) → Option Place
  | place, [] => some place
  | place, step :: rest =>
    if !tree.isDirectory place then none
    else if step == "" || step == "." then tree.walk place rest
    else if step == ".." then tree.walk place.dropLast rest
    else if (tree.entry? (place ++ [step])).isSome then tree.walk (place ++ [step]) rest
    else none

/-- The place that a path leads to, if there is something. -/
def find? (tree : FileTree) (path : String) : Option Place :=
  if path == "" then none else tree.walk (tree.start path) (Text.splitAt '/' path)

/-- Whether a path leads to something. -/
def has (tree : FileTree) (path : String) : Bool :=
  (tree.find? path).isSome

def at? (tree : FileTree) (path : String) : Option Entry :=
  (tree.find? path).bind tree.entry?

/-- The text of a file, if its bytes are one. -/
def readText? (tree : FileTree) (path : String) : Option String :=
  match tree.at? path with
  | some (.file content) => String.fromUTF8? content
  | _ => none

/-- The paths below a directory, with what stands there. -/
def below (tree : FileTree) (directory : String) : List (String × Entry) :=
  let start := if Text.endsWith "/" directory then directory else directory ++ "/"
  tree.entries.entries.filterMap fun (path, entry) =>
    (Text.after? start path).map fun rest => (rest, entry)

/-- The files below a directory, with their sizes; archives count as empty. -/
def filesBelow (tree : FileTree) (directory : String) : List (String × Nat) :=
  (tree.below directory).filterMap fun (path, entry) =>
    match entry with
    | .directory => none
    | .file content => some (path, content.size)
    | .archive _ => some (path, 0)

/-! ### Changing -/

/-- Whether something can be entered under a name. -/
def isName (step : String) : Bool :=
  !Text.containsChar '\x00' step && step.utf8ByteSize ≤ 255

/-- Follows the steps of a path from a directory, and enters directories where there is nothing,
up to where a file is in the way. -/
def enterDirectories : (place : Place) → (steps : List String) → FileTree → FileTree
  | _, [], tree => tree
  | place, step :: rest, tree =>
    if step == "" || step == "." then enterDirectories place rest tree
    else if step == ".." then enterDirectories place.dropLast rest tree
    else
      let next := place ++ [step]
      match tree.entry? next with
      | some .directory => enterDirectories next rest tree
      | some _ => tree
      | none =>
        if isName step then
          enterDirectories next rest
            { tree with entries := tree.entries.insert (pathOf next) .directory }
        else tree

/-- Enters a directory, with the directories above it. -/
def makeDirectory (tree : FileTree) (path : String) : FileTree :=
  enterDirectories (tree.start path) (Text.splitAt '/' path) tree

/-- Enters a file at a path that leads through directories, unless a directory is there. -/
def put (tree : FileTree) (path : String) (entry : Entry) : FileTree :=
  let name := Text.Path.lastSegment path
  match tree.walk (tree.start path) (Text.splitAt '/' path).dropLast with
  | none => tree
  | some directory =>
    let place := directory ++ [name]
    if ["", ".", ".."].contains name || !isName name || !tree.isDirectory directory
        || tree.isDirectory place then tree
    else { tree with entries := tree.entries.insert (pathOf place) entry }

/-- Enters a file, with the directories above it. -/
def deposit (tree : FileTree) (path : String) (entry : Entry) : FileTree :=
  (enterDirectories (tree.start path) (Text.Path.components path).dropLast tree).put path entry

/-- A file that holds a text. -/
def textFile (text : String) : Entry :=
  .file text.toUTF8

/-- Removes the file that stands at a path. -/
def remove (tree : FileTree) (path : String) : FileTree :=
  match tree.find? path with
  | some place =>
    if tree.isDirectory place then tree
    else { tree with entries := tree.entries.erase (pathOf place) }
  | none => tree

end FileTree

end Chunking
