/-
A workspace: a directory whose source files are divided into chunks. It keeps
its configuration and its archive in a directory of their own. Inside a
workspace a file is known by its identity, the path from the root; a path that
leads to an existing file is followed first, so that one file has one identity
however it is written.
-/

import Chunking.Text.Visible
import Chunking.Workspace.Config.Toml
import Chunking.Workspace.FileTree

namespace Chunking

structure Workspace where
  /-- The absolute path of the directory. -/
  root : String
  config : Config
  deriving Repr

/-- A file of a workspace, and the language that it is read in. -/
structure SourceFile where
  identity : String
  path : String
  language : Language
  deriving DecidableEq, Repr

namespace Workspace

open Text (shown)

def stateDirectoryOf (root : String) : String :=
  Text.Path.join root stateDirectory

def configPathOf (root : String) : String :=
  Text.Path.join (stateDirectoryOf root) "config.toml"

def configPath (workspace : Workspace) : String :=
  configPathOf workspace.root

def archivePath (workspace : Workspace) : String :=
  Text.Path.join (stateDirectoryOf workspace.root) "chunks.db"

/-! ### Opening -/

/-- The configuration file of a root, or the defaults if there is none. -/
def loadConfig (files : FileTree) (root : String) : Except Failure Config :=
  let path := configPathOf root
  if !files.has path then .ok {}
  else
    match files.readText? path with
    | none => .error ⟨"Failed to read config file: " ++ shown path, none⟩
    | some text =>
      match Config.ofToml? text with
      | none => .error ⟨"Failed to parse config file: " ++ shown path, none⟩
      | some config => .ok config

/-- The workspace whose root a path leads to. -/
def openAt (files : FileTree) (path : String) : Except Failure Workspace :=
  match files.find? path with
  | none => .error ⟨"Failed to open workspace at " ++ shown path, none⟩
  | some place =>
    let root := FileTree.pathOf place
    if !files.isDirectory place then
      .error ⟨"Workspace root is not a directory: " ++ shown root, none⟩
    else (loadConfig files root).map fun config => { root, config }

/-- Whether the workspace has an archive. -/
def isInitialized (workspace : Workspace) (files : FileTree) : Bool :=
  files.has workspace.archivePath

/-- The archive of the workspace; where there is none yet, an empty one. A file without more than
its first byte counts as an archive that has not been begun. -/
def openArchive (workspace : Workspace) (files : FileTree) : Except Failure Archive :=
  let unopened : Failure := ⟨"Failed to open database at " ++ shown workspace.archivePath, none⟩
  match files.at? workspace.archivePath with
  | some (.archive archive) => .ok archive
  | some (.file content) =>
    if content.size ≤ 1 then .ok {} else .error ⟨"Failed to initialize database schema", none⟩
  | some .directory => .error unopened
  | none =>
    match files.at? (stateDirectoryOf workspace.root) with
    | some .directory => .ok {}
    | _ => .error unopened

/-! ### Files -/

/-- The identity of a path, which must not lead out of the workspace. -/
def identity (workspace : Workspace) (files : FileTree) (path : String) : Except Failure String :=
  let absolute := Text.Path.join workspace.root path
  let steps := (files.find? absolute).getD (Text.Path.components absolute)
  let root := Text.Path.components workspace.root
  if root.isPrefixOf steps then .ok (String.intercalate "/" (steps.drop root.length))
  else .error ⟨shown path ++ " is outside the workspace " ++ shown workspace.root, none⟩

/-- The file that a path stands for, in the given language or in the one that its name tells. -/
def resolve (workspace : Workspace) (files : FileTree) (path : String)
    (language : Option Language) : Except Failure SourceFile := do
  let identity ← workspace.identity files path
  let path := Text.Path.join workspace.root identity
  match language.or (Language.ofPath? path) with
  | some language => return { identity, path, language }
  | none => throw ⟨"Cannot detect the language of " ++ identity, none⟩

def readSource (files : FileTree) (source : SourceFile) : Except Failure String :=
  match files.readText? source.path with
  | some text => .ok text
  | none => .error ⟨"Failed to read file: " ++ shown source.path, none⟩

/-- Whether a path leads through a hidden directory. -/
def isHidden (identity : String) : Bool :=
  (Text.splitAt '/' identity).dropLast.any (Text.startsWith ".")

/-- All files that the configuration selects, by their identities. -/
def sourceFiles (workspace : Workspace) (files : FileTree) : List SourceFile :=
  (files.filesBelow workspace.root).filterMap fun (identity, size) =>
    if isHidden identity || workspace.config.maxFileBytes < size then none
    else (workspace.config.selects? identity).map fun language =>
      { identity, path := Text.Path.join workspace.root identity, language }

end Workspace

end Chunking
