/-
The program. It loads the files of the workspace, runs one command on them, and
writes back what the command changed, which always stands in the state directory
of the workspace. Syntax trees are read from a file in that directory, where they
stand under the languages and digests of their texts. While watching, the files
are loaded again and again and compared with those loaded before.
-/

import Std.Time.Format
import Chunking.Archive.Json
import Chunking.Command.Run
import Chunking.Grammar.Registry
import Chunking.Json.Reader
import Chunking.Tree.Preorder

namespace Chunking.Program

/-! ### Files -/

/-- What the bytes at a path stand for. -/
def entryOf (path : String) (content : ByteArray) : FileTree.Entry :=
  if Text.Path.lastSegment path == "chunks.db" then
    match ((String.fromUTF8? content).bind Json.parse?).bind Archive.ofJson? with
    | some archive => .archive archive
    | none => .file content
  else .file content

/-- Loads everything below a directory. Links are not followed. -/
partial def loadDirectory (path : String) (tree : FileTree) : IO FileTree := do
  let mut tree := tree.makeDirectory path
  for entry in ← (← IO.FS.realPath ⟨path⟩).readDir do
    let below := Text.Path.join path entry.fileName
    match (← entry.path.symlinkMetadata).type with
    | .dir => tree ← loadDirectory below tree
    | .file => tree := tree.put below (entryOf below (← IO.FS.readBinFile entry.path))
    | _ => pure ()
  return tree

/-- Loads what a path leads to, and gives it its absolute path. -/
def load (path : String) : IO (String × FileTree) := do
  let tree : FileTree := { workingDirectory := (← IO.currentDir).toString }
  try
    let place ← IO.FS.realPath ⟨path⟩
    let absolute := place.toString
    if ← place.isDir then return (absolute, ← loadDirectory absolute tree)
    else if ← place.pathExists then return (absolute, tree.deposit absolute (.file ByteArray.empty))
    else return (path, tree)
  catch _ => return (path, tree)

/-- Whether two entries are told apart without looking into archives. -/
def differs (old : Option FileTree.Entry) (new : FileTree.Entry) : Bool :=
  match old, new with
  | some .directory, .directory => false
  | some (.file before), .file after => before != after
  | _, _ => true

/-- Writes back what changed in the state directory. -/
def save (root : String) (before after : FileTree) : IO Unit := do
  let directory := Workspace.stateDirectoryOf root
  if after.has directory then
    for (name, entry) in after.below directory do
      let path := Text.Path.join directory name
      if differs (before.at? path) entry then
        IO.FS.createDirAll ⟨directory⟩
        match entry with
        | .directory => IO.FS.createDirAll ⟨path⟩
        | .file content => IO.FS.writeBinFile ⟨path⟩ content
        | .archive archive => IO.FS.writeFile ⟨path⟩ archive.toJson.compact

/-- The processors for the trees that come with a workspace. A comparison of texts cannot look at the
time of day, so it is timed by its own steps. -/
def toolkit (root : String) (files : FileTree) : Toolkit :=
  let path := Text.Path.join (Workspace.stateDirectoryOf root) "trees.json"
  let trees := ((files.readText? path).bind Json.parse?).getD .null
  { registry := Registry.standard (Forest.ofJson trees).tree?
    clock := fun _ _ => .steady }

/-! ### Running -/

def currentTime : IO String := do
  let now ← Std.Time.Timestamp.now
  return (Std.Time.DateTime.ofTimestampWithZone now Std.Time.TimeZone.UTC).format
    "uuuu-MM-dd HH:mm:ss"

def complain (failure : Failure) : IO Unit := do
  IO.eprintln ("Error: " ++ failure.message)
  if let some error := failure.cause then
    if error.message != failure.message then
      IO.eprintln ("\nCaused by:\n    " ++ error.message)

def exitCode (failure : Failure) : UInt32 :=
  if failure = .overflow then 101 else 1

/-- Runs work on files, prints what it prints, and writes back what it changed. -/
def perform {α : Type} (root : String) (files : FileTree) (session : Session α) :
    IO (Except Failure α × FileTree) := do
  let (result, console) := session.run.run { files, time := ← currentTime }
  IO.print console.output
  save root files console.files
  return (result, console.files)

/-- The paths at which two trees differ. -/
def changedPaths (before after : FileTree) : List String :=
  let changed := after.entries.entries.filterMap fun (path, entry) =>
    if differs (before.entries.get? path) entry then some path else none
  let gone := before.entries.keys.filter fun path => !after.entries.contains path
  changed ++ gone

/-- Looks for changed files again and again, and gives an exit code if it cannot go on. -/
partial def follow (root : String) (debounce : Nat) (watch : Session.Watch) (files : FileTree) :
    IO UInt32 := do
  IO.sleep debounce.toUInt32
  let (_, current) ← load root
  let mut watch := watch
  let mut files := files
  let changed := changedPaths files current
  files := current
  for path in changed do
    let (result, after) ← perform root files (Session.notice watch path)
    files := after
    match result with
    | .ok next => watch := next
    | .error failure =>
      if failure = .overflow then
        complain failure
        return exitCode failure
      IO.eprintln ("Reparse error: " ++ failure.message)
  follow root debounce watch files

def usageText : String :=
  "Usage: code-chunker [OPTIONS] <COMMAND>\n\nCommands: "
    ++ String.intercalate ", " (Arguments.commands.map Prod.fst ++ [Arguments.helpWord])

/-- Answers a command line that leads to no command. -/
def explain (usage : Usage) : IO UInt32 := do
  if usage = .displayVersion then IO.println "code-chunker 0.1.0"
  else if usage.isInquiry then IO.println usageText
  else IO.eprintln usageText
  return if usage.isInquiry then 0 else 2

/-- Runs a command, and gives the exit code. -/
def execute (invocation : Invocation) : IO UInt32 := do
  let (root, files) ← load invocation.path
  let toolkit := toolkit root files
  let failed (failure : Failure) : IO UInt32 := do
    complain failure
    return exitCode failure
  match invocation.command with
  | .watch debounce =>
    match ← perform root files (Session.watch toolkit root) with
    | (.ok watch, files) => follow root debounce watch files
    | (.error failure, _) => failed failure
  | _ =>
    match ← perform root files ({ invocation with path := root }.run toolkit) with
    | (.ok (), _) => return 0
    | (.error failure, _) => failed failure

end Chunking.Program

open Chunking in
def main (words : List String) : IO UInt32 :=
  match Arguments.parse words with
  | .error usage => Program.explain usage
  | .ok invocation => Program.execute invocation
