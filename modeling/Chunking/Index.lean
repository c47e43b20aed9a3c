/-
Indexing: every selected file is brought up to date with its text, and what is
new is entered into the archive. The engine starts from the versions in the
archive, as far as they still belong to their texts. Files that are no longer
selected leave the archive. A file that cannot be read or divided is listed as
failed and keeps the version it has.
-/

import Chunking.Archive
import Chunking.Engine

namespace Chunking.Index

structure Summary where
  files : Nat
  /-- How many versions were entered. -/
  updated : Nat := 0
  unchanged : Nat := 0
  /-- How many files left the archive. -/
  removed : Nat := 0
  failed : List String := []
  /-- The number of chunks in all files that did not fail. -/
  chunks : Nat := 0
  deriving DecidableEq, Repr

/-! ### The store at the start -/

/-- Enters a version from the archive, unless it does not belong to its text. -/
def hydrateOne (store : Store) (snapshot : Snapshot) : Store :=
  match Engine.hydrate store snapshot.version snapshot.text with
  | .ok store => store
  | .error _ => store

/-- A store with the versions of the archive. -/
def hydrated (settings : Settings) (archive : Archive) : Except Failure Store :=
  archive.loadAll.map fun snapshots =>
    snapshots.foldl hydrateOne (Store.empty settings.cacheCapacity)

/-- The digests of the texts that the store knows for some files. Looking them up is a use of each
file. -/
def knownDigests : List String → Store → List (String × String) × Store
  | [], store => ([], store)
  | file :: rest, store =>
    let (snapshot, store) := store.snapshot file
    let (known, store) := knownDigests rest store
    ((snapshot.map fun snapshot => (file, snapshot.version.textHash)).toList ++ known, store)

/-! ### The archive at the end -/

/-- Enters outcomes into the archive. A version whose text was known before is left alone, unless
everything is entered. -/
def enter (everything : Bool) (known : List (String × String)) :
    Summary → Archive → List (Engine.SourceInput × Except Error Outcome) →
    Except Failure Summary × Archive
  | summary, archive, [] => (.ok summary, archive)
  | summary, archive, (input, .error _) :: rest =>
    enter everything known { summary with failed := summary.failed ++ [input.file] } archive rest
  | summary, archive, (input, .ok outcome) :: rest =>
    let version := outcome.version
    let summary := { summary with chunks := summary.chunks + version.chunks.length }
    if everything || known.lookup input.file != some version.textHash then
      match archive.save version input.text with
      | .error failure => (.error failure, archive)
      | .ok archive =>
        enter everything known { summary with updated := summary.updated + 1 } archive rest
    else
      enter everything known { summary with unchanged := summary.unchanged + 1 } archive rest

/-- Removes the files that are not among `present`. -/
def prune (present : List String) (archive : Archive) : Archive :=
  { archive with files := archive.files.filter fun (file, _) => present.contains file }

/-- Whether files cannot be indexed, because a number does not fit. -/
def overflows (engine : Engine) (everything : Bool) (store : Store)
    (files : List (String × Option Engine.SourceInput)) : Bool :=
  let inputs := files.filterMap Prod.snd
  let (_, store) := knownDigests (inputs.map Engine.SourceInput.file) store
  engine.overflowsAny (if everything then .full else .auto) store inputs

/-- Indexes files, each given with its text if it could be read, on top of a store. The archive is
also given back when entering a version fails. The files are brought up to date in the order in which
they are given, which can be told only where the store has no room for all of them: a file that was
dropped for others before its turn is parsed as a new one. -/
def run (engine : Engine) (everything : Bool) (time : String) (store : Store) (archive : Archive)
    (files : List (String × Option Engine.SourceInput)) : Except Failure Summary × Archive :=
  let present := files.map Prod.fst
  let unread := (files.filter (·.2.isNone)).map Prod.fst
  let inputs := files.filterMap Prod.snd
  let (known, store) := knownDigests (inputs.map Engine.SourceInput.file) store
  let request : Request := if everything then .full else .auto
  let results := inputs.zip (engine.performAll request store inputs).1
  match enter everything known { files := files.length, failed := unread } archive results with
  | (.error failure, archive) => (.error failure, archive)
  | (.ok summary, archive) =>
    let removed := archive.list.countP fun file => !present.contains file
    (.ok { summary with removed }, (prune present archive).markIndexed time)

end Chunking.Index
