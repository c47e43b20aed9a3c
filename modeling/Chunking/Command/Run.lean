/-
Running commands. A command sees the tree of files and the time, and prints. It
may fail at any point; what it has changed and printed before that stays.
-/

import Chunking.Command.Listing
import Chunking.Workspace

namespace Chunking

/-- What a command works on. -/
structure Console where
  files : FileTree
  /-- The time, as it is noted in archives. -/
  time : String
  /-- Everything that has been printed. -/
  output : String := ""

/-- Work on a console, which may fail. -/
abbrev Session := ExceptT Failure (StateM Console)

namespace Session

open Text (shown)

/-! ### Steps -/

/-- A result that may be a failure. -/
def ofExcept {α : Type} (result : Except Failure α) : Session α :=
  match result with
  | .ok value => pure value
  | .error failure => throw failure

def fail {α : Type} (message : String) : Session α :=
  throw ⟨message, none⟩

/-- Goes on unless a number does not fit. -/
def goOn (overflows : Bool) : Session Unit :=
  if overflows then throw .overflow else pure ()

def files : Session FileTree :=
  return (← get).files

def changeFiles (change : FileTree → FileTree) : Session Unit :=
  modify fun console => { console with files := change console.files }

def print (text : String) : Session Unit :=
  modify fun console => { console with output := console.output ++ text }

def openWorkspace (path : String) : Session Workspace := do
  ofExcept (Workspace.openAt (← files) path)

def storeArchive (workspace : Workspace) (archive : Archive) : Session Unit :=
  changeFiles (·.put workspace.archivePath (.archive archive))

/-- Opens the archive of a workspace; from then on there is one. -/
def openArchive (workspace : Workspace) : Session Archive := do
  let archive ← ofExcept (workspace.openArchive (← files))
  storeArchive workspace archive
  return archive

/-- Opens the archive of a workspace that has one. -/
def existingArchive (workspace : Workspace) : Session Archive := do
  if workspace.isInitialized (← files) then openArchive workspace
  else fail "code-chunker not initialized. Run 'code-chunker init' first."

/-- Writes the configuration of a workspace. -/
def saveConfig (workspace : Workspace) (config : Config) : Session Unit := do
  let directory := Workspace.stateDirectoryOf workspace.root
  match (← files).at? directory with
  | some .directory | none =>
    changeFiles (·.deposit workspace.configPath (FileTree.textFile config.toToml))
  | some _ => fail "File exists (os error 17)"

/-! ### Commands -/

def init (path : String) (force : Bool) : Session Unit := do
  let workspace ← openWorkspace path
  let initialized := workspace.isInitialized (← files)
  if initialized && !force then
    fail "code-chunker already initialized. Use --force to re-initialize."
  let directory := Workspace.stateDirectoryOf workspace.root
  if !(← files).has directory then changeFiles (·.makeDirectory directory)
  if initialized then
    match (← files).at? workspace.archivePath with
    | some .directory => fail ("Failed to remove " ++ shown workspace.archivePath)
    | _ => changeFiles (·.remove workspace.archivePath)
  let _ ← openArchive workspace
  if !(← files).has workspace.configPath then saveConfig workspace workspace.config
  print (Listing.unlines ["✓ Initialized code-chunker in " ++ shown workspace.root,
    "  Database: " ++ shown workspace.archivePath,
    "  Config: " ++ shown workspace.configPath])

/-- Parses one file in full. In a workspace with an archive, the version there passes its ids on,
and is replaced. -/
def parse (toolkit : Toolkit) (path file : String) (language : Option Language)
    (format : OutputFormat) : Session Unit := do
  let workspace ← openWorkspace path
  let source ← ofExcept (workspace.resolve (← files) file language)
  let text ← ofExcept (Workspace.readSource (← files) source)
  let archive ←
    if workspace.isInitialized (← files) then some <$> openArchive workspace else pure none
  let settings ← ofExcept workspace.config.settings
  let stored ← ofExcept ((archive.getD {}).load? source.identity)
  let store := stored.toList.foldl Index.hydrateOne (Store.empty settings.cacheCapacity)
  let engine := toolkit.engine settings
  let input : Engine.SourceInput := ⟨source.identity, text, source.language⟩
  goOn (engine.overflows .full store input)
  match (engine.perform .full store input).1 with
  | .error error => throw ⟨"Failed to parse " ++ source.identity, some error⟩
  | .ok outcome =>
    if let some archive := archive then
      storeArchive workspace (← ofExcept (archive.save outcome.version text))
    print (Listing.version format outcome.version)

/-- A selected file with its text, as far as it can be read. -/
def readInput (files : FileTree) (source : SourceFile) : String × Option Engine.SourceInput :=
  match Workspace.readSource files source with
  | .ok text => (source.identity, some ⟨source.identity, text, source.language⟩)
  | .error _ => (source.identity, none)

def index (toolkit : Toolkit) (path : String) (full : Bool) (format : OutputFormat) :
    Session Unit := do
  let workspace ← openWorkspace path
  let archive ← existingArchive workspace
  let settings ← ofExcept workspace.config.settings
  let store ← ofExcept (Index.hydrated settings archive)
  let console ← get
  let inputs := (workspace.sourceFiles console.files).map (readInput console.files)
  let engine := toolkit.engine settings
  goOn (Index.overflows engine full store inputs)
  let (result, archive) := Index.run engine full console.time store archive inputs
  storeArchive workspace archive
  print (Listing.summary format (← ofExcept result))

def display (path file : String) (format : OutputFormat) : Session Unit := do
  let workspace ← openWorkspace path
  let archive ← existingArchive workspace
  let identity ← ofExcept (workspace.identity (← files) file)
  match ← ofExcept (archive.load? identity) with
  | some snapshot => print (Listing.version format snapshot.version)
  | none => fail ("No stored version for " ++ identity ++ ". Run 'code-chunker index' first.")

def invalidate (path : String) (file : Option String) (all : Bool) : Session Unit := do
  let workspace ← openWorkspace path
  let archive ← existingArchive workspace
  let identities ←
    if all then pure archive.list
    else match file with
      | some file => do pure [← ofExcept (workspace.identity (← files) file)]
      | none => fail "Specify a file or --all"
  let removed := identities.countP archive.files.contains
  storeArchive workspace (identities.foldl (fun archive file => (archive.delete file).2) archive)
  print (Listing.unlines ["✓ Invalidated " ++ toString removed ++ " file(s)"])

def status (path : String) (format : OutputFormat) : Session Unit := do
  let workspace ← openWorkspace path
  let archive ← existingArchive workspace
  print (Listing.status format workspace.root (← ofExcept archive.stats))

/-- Shows the configuration. When it is reset, it is shown only if that is asked for. -/
def config (path : String) (displays resets : Bool) (format : OutputFormat) : Session Unit := do
  let workspace ← openWorkspace path
  let config : Config := if resets then {} else workspace.config
  if resets then
    saveConfig workspace config
    print (Listing.unlines ["✓ Configuration reset to defaults"])
  if displays || !resets then
    print (Listing.config format config (← ofExcept config.settings))

/-! ### Watching -/

/-- What is kept while files are watched. -/
structure Watch where
  workspace : Workspace
  engine : Engine
  store : Store

/-- Prepares to follow the files of a workspace. -/
def watch (toolkit : Toolkit) (path : String) : Session Watch := do
  let workspace ← openWorkspace path
  let archive ← existingArchive workspace
  let settings ← ofExcept workspace.config.settings
  let store ← ofExcept (Index.hydrated settings archive)
  print (Listing.unlines ["Watching for changes in " ++ shown workspace.root ++ "...",
    "Press Ctrl+C to stop.", ""])
  return { workspace, engine := toolkit.engine settings, store }

/-- The line about a file that was brought up to date. -/
def refreshedLine (file : String) (report : Report) : String :=
  let mode := match report.mode with
    | .unchanged => "Unchanged"
    | .incremental => "Incremental"
    | .full => "Full"
  "📝 " ++ file ++ " (" ++ mode ++ ": " ++ toString report.reparsed ++ " reparsed, "
    ++ toString report.survivors ++ " kept"
    ++ report.escalation.elim "" (fun reason => ", " ++ reason.message) ++ ")"

/-- Brings a file that is there up to date. -/
def refresh (watch : Watch) (source : SourceFile) : Session Watch := do
  let archive ← openArchive watch.workspace
  let text ← ofExcept (Workspace.readSource (← files) source)
  let input : Engine.SourceInput := ⟨source.identity, text, source.language⟩
  goOn (watch.engine.overflows .auto watch.store input)
  match watch.engine.perform .auto watch.store input with
  | (.error error, _) => throw (Failure.ofError error)
  | (.ok outcome, store) =>
    if outcome.report.mode ≠ .unchanged then
      storeArchive watch.workspace (← ofExcept (archive.save outcome.version text))
      print (Listing.unlines [refreshedLine source.identity outcome.report])
    return { watch with store }

/-- Drops a file that is no longer there. -/
def dropFile (watch : Watch) (file : String) : Session Watch := do
  let archive ← openArchive watch.workspace
  let (found, archive) := archive.delete file
  storeArchive watch.workspace archive
  if found then print (Listing.unlines ["✗ " ++ file ++ " removed"])
  return { watch with store := (watch.store.invalidate file).2 }

/-- Takes notice of a path where something changed. -/
def notice (watch : Watch) (path : String) : Session Watch := do
  match watch.workspace.identity (← files) path with
  | .error _ => return watch
  | .ok identity =>
    if Text.startsWith stateDirectory identity then return watch
    else
      match watch.workspace.config.selects? identity with
      | none => return watch
      | some language =>
        let path := Text.Path.join watch.workspace.root identity
        if (← files).has path then refresh watch { identity, path, language }
        else dropFile watch identity

end Session

/-- Runs a command. Watching goes no further than its preparation. -/
def Invocation.run (toolkit : Toolkit) (invocation : Invocation) : Session Unit :=
  let path := invocation.path
  let format := invocation.format
  match invocation.command with
  | .init force => Session.init path force
  | .parse file language => Session.parse toolkit path file language format
  | .index full => Session.index toolkit path full format
  | .display file => Session.display path file format
  | .invalidate file all => Session.invalidate path file all
  | .watch _ => do let _ ← Session.watch toolkit path
  | .status => Session.status path format
  | .config displays resets => Session.config path displays resets format

end Chunking
