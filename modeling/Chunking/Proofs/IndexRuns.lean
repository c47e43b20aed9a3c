/-
The index command as a whole. A run of it opens the workspace and its archive, fills
a store from the archive, reads the selected files, indexes them and puts the new
archive in the place of the old one. What is known about indexing, about archives and
about trees of files then says what can be found in the tree afterwards.

Two things are not as one might expect. A version that the engine returned is not
always the one that is kept, as only the digest of a text decides whether a version
is entered. And when there are more files than the store has room for, indexing them
again does not leave everything as it is.
-/

import Chunking.Command.Run
import Chunking.Proofs.FileTrees
import Chunking.Proofs.Reindexing

namespace Chunking

/-! ### Work that succeeds -/

namespace Session

variable {α β : Type} {console after : Console}

/-- Work comes to its end with a value and leaves a console behind. -/
def Gives (session : Session α) (console : Console) (value : α) (after : Console) : Prop :=
  session.run.run console = (.ok value, after)

theorem gives_bind {session : Session α} {next : α → Session β} {value : β} :
    (session >>= next).Gives console value after ↔ ∃ middle between,
      session.Gives console middle between ∧ (next middle).Gives between value after := by
  unfold Gives
  have step : (session >>= next).run.run console =
      match session.run.run console with
      | (.ok middle, between) => (next middle).run.run between
      | (.error failure, between) => (.error failure, between) := by
    rw [ExceptT.run_bind, StateT.run_bind]
    rcases session.run.run console with ⟨failure | first, between⟩ <;> rfl
  rw [step]
  rcases session.run.run console with ⟨failure | first, between⟩
  · constructor
    · intro given
      cases given
    · rintro ⟨_, _, given, _⟩
      cases given
  · constructor
    · intro given
      exact ⟨first, between, rfl, given⟩
    · rintro ⟨_, _, given, later⟩
      cases given
      exact later

theorem gives_iff {session : Session α} {result value : α} {left : Console}
    (run : session.run.run console = (.ok result, left)) :
    session.Gives console value after ↔ value = result ∧ after = left := by
  rw [Gives, run, Prod.mk.injEq, Except.ok.injEq, eq_comm, @eq_comm _ left]

theorem gives_pure {result value : α} :
    (pure result : Session α).Gives console value after ↔ value = result ∧ after = console :=
  gives_iff rfl

theorem gives_get {value : Console} :
    (get : Session Console).Gives console value after ↔ value = console ∧ after = console :=
  gives_iff rfl

theorem gives_files {value : FileTree} :
    files.Gives console value after ↔ value = console.files ∧ after = console :=
  gives_iff rfl

theorem gives_changeFiles {change : FileTree → FileTree} {value : Unit} :
    (changeFiles change).Gives console value after ↔
      after = { console with files := change console.files } :=
  (gives_iff rfl).trans (and_iff_right rfl)

theorem gives_print {text : String} {value : Unit} :
    (print text).Gives console value after ↔
      after = { console with output := console.output ++ text } :=
  (gives_iff rfl).trans (and_iff_right rfl)

theorem gives_ofExcept {result : Except Failure α} {value : α} :
    (ofExcept result).Gives console value after ↔ result = .ok value ∧ after = console := by
  cases result with
  | error failure =>
    constructor
    · intro given
      cases given
    · rintro ⟨⟨⟩, _⟩
  | ok result =>
    rw [Except.ok.injEq, @eq_comm _ result]
    exact gives_iff rfl

theorem gives_goOn {overflows : Bool} {value : Unit} :
    (goOn overflows).Gives console value after ↔ overflows = false ∧ after = console := by
  cases overflows with
  | false => exact gives_pure.trans (and_congr_left' (iff_of_true rfl rfl))
  | true =>
    constructor
    · intro given
      cases given
    · rintro ⟨⟨⟩, _⟩

theorem gives_openArchive {workspace : Workspace} {archive : Archive} :
    (openArchive workspace).Gives console archive after ↔
      workspace.openArchive console.files = .ok archive ∧
        after = { console with
          files := console.files.put workspace.archivePath (.archive archive) } := by
  unfold openArchive storeArchive
  simp only [gives_bind, gives_files, gives_ofExcept, gives_changeFiles, gives_pure]
  constructor
  · rintro ⟨_, _, ⟨rfl, rfl⟩, _, _, ⟨opened, rfl⟩, _, _, rfl, rfl, rfl⟩
    exact ⟨opened, rfl⟩
  · rintro ⟨opened, rfl⟩
    exact ⟨_, _, ⟨rfl, rfl⟩, _, _, ⟨opened, rfl⟩, (), _, rfl, rfl, rfl⟩

theorem gives_existingArchive {workspace : Workspace} {archive : Archive} :
    (existingArchive workspace).Gives console archive after ↔
      workspace.isInitialized console.files = true ∧
        workspace.openArchive console.files = .ok archive ∧
        after = { console with
          files := console.files.put workspace.archivePath (.archive archive) } := by
  unfold existingArchive
  simp only [gives_bind, gives_files]
  by_cases initialized : workspace.isInitialized console.files = true
  · constructor
    · rintro ⟨_, _, ⟨rfl, rfl⟩, given⟩
      rw [if_pos initialized] at given
      exact ⟨initialized, gives_openArchive.mp given⟩
    · rintro ⟨_, opened⟩
      refine ⟨_, _, ⟨rfl, rfl⟩, ?_⟩
      rw [if_pos initialized]
      exact gives_openArchive.mpr opened
  · constructor
    · rintro ⟨_, _, ⟨rfl, rfl⟩, given⟩
      rw [if_neg initialized] at given
      cases given
    · rintro ⟨there, _⟩
      exact absurd there initialized

end Session

/-! ### The index command -/

/-- What comes up while files are indexed. -/
structure IndexRun where
  workspace : Workspace
  settings : Settings
  /-- The archive at the start. -/
  before : Archive
  /-- The store that is filled from it. -/
  store : Store
  summary : Index.Summary
  /-- The archive at the end. -/
  saved : Archive

/-- The selected files of a tree, with their texts. -/
def Workspace.inputs (workspace : Workspace) (files : FileTree) :
    List (String × Option Engine.SourceInput) :=
  (workspace.sourceFiles files).map (Session.readInput files)

theorem Workspace.inputs_eq (workspace : Workspace) (files : FileTree) :
    workspace.inputs files = (workspace.sourceFiles files).map (Session.readInput files) :=
  rfl

namespace IndexRun

/-- What the engine answered for the files of a tree. -/
def results (run : IndexRun) (toolkit : Toolkit) (everything : Bool) (files : FileTree) :
    List (Engine.SourceInput × Except Error Outcome) :=
  Index.results (toolkit.engine run.settings) everything run.store
    (run.workspace.inputs files)

/-- A run on a console succeeds and leaves another one behind. -/
structure Succeeds (run : IndexRun) (toolkit : Toolkit) (path : String) (everything : Bool)
    (format : OutputFormat) (console after : Console) : Prop where
  opened : Workspace.openAt console.files path = .ok run.workspace
  initialized : run.workspace.isInitialized console.files = true
  archive : run.workspace.openArchive console.files = .ok run.before
  settings : run.workspace.config.settings = .ok run.settings
  hydrated : Index.hydrated run.settings run.before = .ok run.store
  fits : Index.overflows (toolkit.engine run.settings) everything run.store (run.workspace.inputs
    (console.files.put run.workspace.archivePath (.archive run.before))) = false
  indexed : Index.run (toolkit.engine run.settings) everything console.time run.store
    run.before (run.workspace.inputs
      (console.files.put run.workspace.archivePath (.archive run.before))) =
    (.ok run.summary, run.saved)
  after : after = { console with
    files := (console.files.put run.workspace.archivePath (.archive run.before)).put
      run.workspace.archivePath (.archive run.saved)
    output := console.output ++ Listing.summary format run.summary }

end IndexRun

namespace Session

/-- The index command does what is said of its runs. -/
theorem gives_index {toolkit : Toolkit} {path : String} {everything : Bool}
    {format : OutputFormat} {console after : Console} :
    (index toolkit path everything format).Gives console () after ↔
      ∃ run : IndexRun, run.Succeeds toolkit path everything format console after := by
  unfold index openWorkspace storeArchive
  simp only [gives_bind, gives_files, gives_get, gives_ofExcept, gives_existingArchive,
    gives_goOn, gives_changeFiles, gives_print]
  simp only [and_assoc, exists_and_left, exists_eq_left, exists_const, ← Workspace.inputs_eq]
  constructor
  · rintro ⟨workspace, opened, initialized, before, archive, settings, valid, store, hydrated, fits,
      summary, indexed, after⟩
    generalize ran : Index.run _ everything console.time store before _ = done at indexed after
    obtain ⟨result, saved⟩ := done
    cases indexed
    exact ⟨⟨workspace, settings, before, store, summary, saved⟩, opened, initialized, archive,
      valid, hydrated, fits, ran, after⟩
  · rintro ⟨run, succeeds⟩
    have indexed := succeeds.indexed
    have after := succeeds.after
    refine ⟨_, succeeds.opened, succeeds.initialized, _, succeeds.archive, _, succeeds.settings, _,
      succeeds.hydrated, succeeds.fits, run.summary, ?_, ?_⟩
    · rw [indexed]
    · rw [indexed]
      exact after

end Session

/-! ### What is left behind -/

namespace Workspace

theorem readInput_eq (files : FileTree) (source : SourceFile) :
    Session.readInput files source =
      (source.identity, (readSource files source).toOption.map fun text =>
        ⟨source.identity, text, source.language⟩) := by
  unfold Session.readInput
  cases readSource files source <;> rfl

theorem map_fst_inputs (workspace : Workspace) (files : FileTree) :
    (workspace.inputs files).map Prod.fst =
      (workspace.sourceFiles files).map SourceFile.identity := by
  rw [inputs, List.map_map]
  exact List.map_congr_left fun source _ => congrArg Prod.fst (readInput_eq files source)

theorem listed_inputs (workspace : Workspace) (files : FileTree) :
    Index.Listed (workspace.inputs files) := by
  refine ⟨?_, fun file input member => ?_⟩
  · rw [map_fst_inputs]
    exact workspace.nodup_sourceFiles files
  · obtain ⟨source, _, same⟩ := List.mem_map.mp member
    rw [readInput_eq, Prod.mk.injEq, Option.map_eq_some_iff] at same
    obtain ⟨rfl, text, _, rfl⟩ := same
    rfl

/-- What is read does not depend on what the archive holds. -/
theorem inputs_replaced (workspace : Workspace) {files : FileTree} {place : FileTree.Place}
    {old : Archive} (there : files.entry? place = some (.archive old)) (new : Archive) :
    workspace.inputs (files.replaced place (.archive new)) = workspace.inputs files := by
  unfold inputs
  rw [workspace.sourceFiles_replaced there]
  refine List.map_congr_left fun source _ => ?_
  rw [readInput_eq, readInput_eq, readSource_replaced there]

end Workspace

namespace IndexRun

variable {run : IndexRun} {toolkit : Toolkit} {path : String} {everything : Bool}
  {format : OutputFormat} {console after : Console}

namespace Succeeds

/-- The archive takes the place of the one that was there, and nothing else changes. -/
theorem files_eq (succeeds : run.Succeeds toolkit path everything format console after) :
    ∃ place, run.workspace.Shelves console.files place ∧
      console.files.put run.workspace.archivePath (.archive run.before) =
        console.files.replaced place (.archive run.before) ∧
      after.files = console.files.replaced place (.archive run.saved) := by
  obtain ⟨place, shelves⟩ :=
    Workspace.shelves_of_openArchive succeeds.initialized succeeds.archive
  refine ⟨place, shelves, shelves.put _, ?_⟩
  rw [succeeds.after, shelves.put, (shelves.replaced run.before).1.put,
    FileTree.replaced_replaced]

theorem openArchive (succeeds : run.Succeeds toolkit path everything format console after) :
    run.workspace.openArchive after.files = .ok run.saved := by
  obtain ⟨place, shelves, _, files⟩ := succeeds.files_eq
  rw [files]
  exact shelves.openArchive run.saved

/-- The files that take part are the same at the end as at the start. -/
theorem inputs_after (succeeds : run.Succeeds toolkit path everything format console after) :
    run.workspace.inputs after.files = run.workspace.inputs
      (console.files.put run.workspace.archivePath (.archive run.before)) := by
  obtain ⟨place, shelves, put, files⟩ := succeeds.files_eq
  have same := run.workspace.inputs_replaced (shelves.replaced run.before).2 run.saved
  rw [FileTree.replaced_replaced, ← files] at same
  rw [same, put]

theorem indexed_after (succeeds : run.Succeeds toolkit path everything format console after) :
    Index.run (toolkit.engine run.settings) everything console.time run.store run.before
      (run.workspace.inputs after.files) = (.ok run.summary, run.saved) := by
  rw [succeeds.inputs_after]
  exact succeeds.indexed

theorem fits_after (succeeds : run.Succeeds toolkit path everything format console after) :
    Index.overflows (toolkit.engine run.settings) everything run.store
      (run.workspace.inputs after.files) = false := by
  rw [succeeds.inputs_after]
  exact succeeds.fits

theorem ran (succeeds : run.Succeeds toolkit path everything format console after) :
    Index.Ran everything run.store run.before run.saved (run.workspace.inputs after.files)
      (run.results toolkit everything after.files) run.summary :=
  Index.ran_of_run (run.workspace.listed_inputs after.files)
    (Index.belongs_hydrated succeeds.hydrated) succeeds.indexed_after

end Succeeds

/-- What a successful run leaves behind in a tree of files. -/
structure Persists (run : IndexRun) (toolkit : Toolkit) (everything : Bool) (files : FileTree) :
    Prop where
  archived : run.workspace.openArchive files = .ok run.saved
  counted : run.summary.files = (run.workspace.sourceFiles files).length
  total : run.summary.files =
    run.summary.updated + run.summary.unchanged + run.summary.failed.length
  /-- Every selected file failed, or its text was read and the engine returned a version of it. -/
  selected : ∀ source ∈ run.workspace.sourceFiles files,
    source.identity ∈ run.summary.failed ∨
      ∃ text outcome, Workspace.readSource files source = .ok text ∧
        (⟨source.identity, text, source.language⟩, .ok outcome) ∈
          run.results toolkit everything files
  gone : ∀ file, (∀ source ∈ run.workspace.sourceFiles files, source.identity ≠ file) →
    run.saved.load? file = .ok none
  failedKept : ∀ file ∈ run.summary.failed, run.saved.load? file = run.before.load? file
  /-- The version that was returned is what is kept, unless it was not entered and something else
  had been kept. -/
  current : ∀ input outcome, (input, .ok outcome) ∈ run.results toolkit everything files →
    (Index.IsNew everything run.store input outcome.version → outcome.version.Writable) →
      (run.saved.load? input.file = .ok (some ⟨outcome.version, input.text⟩) ↔
        Index.IsNew everything run.store input outcome.version ∨
          run.before.load? input.file = .ok (some ⟨outcome.version, input.text⟩))
  /-- Without a limit on the number of files in the store, it is kept unless the same text had been
  kept in another language. -/
  language : run.settings.cacheCapacity = none → run.before.Orderly →
    ∀ input outcome, (input, .ok outcome) ∈ run.results toolkit everything files →
      (Index.IsNew everything run.store input outcome.version → outcome.version.Writable) →
      (∀ stored ∈ run.store.peek? input.file,
        Digest.ofText stored.text = Digest.ofText input.text → stored.text = input.text) →
      (run.saved.load? input.file = .ok (some ⟨outcome.version, input.text⟩) ↔
        everything = true ∨ ∀ stored ∈ run.store.peek? input.file, stored.text = input.text →
          stored.version.language = input.language)
  orderly : (∀ input outcome, (input, .ok outcome) ∈ run.results toolkit everything files →
    Index.IsNew everything run.store input outcome.version → outcome.version.Writable) →
      run.before.Orderly → run.saved.Orderly

theorem Succeeds.selected (succeeds : run.Succeeds toolkit path everything format console after)
    {source : SourceFile} (member : source ∈ run.workspace.sourceFiles after.files) :
    source.identity ∈ run.summary.failed ∨
      ∃ text outcome, Workspace.readSource after.files source = .ok text ∧
        (⟨source.identity, text, source.language⟩, .ok outcome) ∈
          run.results toolkit everything after.files := by
  have failed := succeeds.ran.failed
  have input : Session.readInput after.files source ∈ run.workspace.inputs after.files :=
    List.mem_map_of_mem member
  rw [Workspace.readInput_eq] at input
  cases read : Workspace.readSource after.files source with
  | error failure =>
    rw [read] at input
    exact Or.inl ((failed _).mpr (Or.inl input))
  | ok text =>
    rw [read] at input
    obtain ⟨result, done⟩ :=
      Index.exists_result (toolkit.engine run.settings) everything run.store
        (List.mem_filterMap.mpr ⟨_, input, rfl⟩)
    cases result with
    | error error => exact Or.inl ((failed _).mpr (Or.inr ⟨_, error, done, rfl⟩))
    | ok outcome => exact Or.inr ⟨text, outcome, rfl, done⟩

end IndexRun

/-! ### Samples -/

namespace IndexRun

/-- What a run starts from. -/
def start (path : String) (files : FileTree) :
    Except Failure (Workspace × Settings × Archive × Store) := do
  let workspace ← Workspace.openAt files path
  let settings ← workspace.config.settings
  let before ← workspace.openArchive files
  return (workspace, settings, before, ← Index.hydrated settings before)

theorem Succeeds.start {run : IndexRun} {toolkit : Toolkit} {path : String} {everything : Bool}
    {format : OutputFormat} {console after : Console}
    (succeeds : run.Succeeds toolkit path everything format console after) :
    (run.workspace, run.settings, run.before, run.store) ∈
      (IndexRun.start path console.files).toOption := by
  rw [IndexRun.start, succeeds.opened]
  change _ ∈ Except.toOption (do
    let settings ← run.workspace.config.settings
    let before ← run.workspace.openArchive console.files
    return (run.workspace, settings, before, ← Index.hydrated settings before))
  rw [succeeds.settings, succeeds.archive]
  change _ ∈ Except.toOption (do
    return (run.workspace, run.settings, run.before, ← Index.hydrated run.settings run.before))
  rw [succeeds.hydrated]
  rfl

end IndexRun

namespace Session

/-- Registered processors take every line for a function. -/
def lines : Toolkit where
  registry := (Engine.linewise (fun _ => .function) fun _ => "line").registry
  clock _ _ := .steady

/-- A workspace with an archive and with further files. -/
def sample (further : List (String × String)) : Console where
  files := { entries := .ofList ([("/w", .directory), ("/w/.code-chunker", .directory),
    ("/w/.code-chunker/chunks.db", .archive {})] ++
      further.map fun (path, text) => (path, FileTree.textFile text)) }
  time := ""

theorem gives_of_isOk {α : Type} {session : Session α} {console : Console}
    (ended : (session.run.run console).1.isOk = true) :
    ∃ value, session.Gives console value (session.run.run console).2 := by
  unfold Gives
  cases given : session.run.run console with
  | mk result after =>
    rw [given] at ended
    cases result with
    | error failure => cases ended
    | ok value => exact ⟨value, rfl⟩

end Session

/-! ### After the command -/

/-- Whatever is in a tree of files, its configuration and its archive: what a successful index
command leaves there. -/
theorem Session.index_persists {toolkit : Toolkit} {path : String} {everything : Bool}
    {format : OutputFormat} {console after : Console}
    (done : (index toolkit path everything format).Gives console () after) :
    ∃ run : IndexRun, run.Succeeds toolkit path everything format console after ∧
      run.Persists toolkit everything after.files := by
  obtain ⟨run, succeeds⟩ := gives_index.mp done
  have ran := succeeds.ran
  have listed := run.workspace.listed_inputs after.files
  have belongs := Index.belongs_hydrated succeeds.hydrated
  refine ⟨run, succeeds, succeeds.openArchive, ?_, ran.total, fun _ => succeeds.selected, ?_,
    fun _ => ran.load?_failed, ?_, ?_, ran.orderly listed belongs⟩
  · rw [ran.counted, Workspace.inputs, List.length_map]
  · intro file unselected
    have absent : file ∉ (run.workspace.inputs after.files).map Prod.fst := by
      rw [Workspace.map_fst_inputs]
      intro among
      obtain ⟨source, member, same⟩ := List.mem_map.mp among
      exact unselected source member same
    rw [Archive.load?, ran.gone file absent]
  · intro input outcome member writable
    exact ran.load?_iff listed belongs member writable
  · intro unlimited orderly input outcome member writable apart
    exact ran.load?_iff_language listed orderly succeeds.hydrated unlimited member writable apart

namespace Session

/-- A file of one language that was taken for one of another. -/
def mistaken : Console :=
  ((parse lines "/w" "a.py" (some .rust) .json).run.run (sample [("/w/a.py", "")])).2

theorem index_persists_mistaken :
    ∃ run : IndexRun, ∃ after outcome, run.Succeeds lines "/w" false .json mistaken after ∧
      run.Persists lines false after.files ∧
      (⟨"a.py", "", .python⟩, .ok outcome) ∈ run.results lines false after.files ∧
      run.saved.load? "a.py" ≠ .ok (some ⟨outcome.version, ""⟩) := by
  have facts : ((index lines "/w" false .json).run.run mistaken).1.isOk = true ∧
      ∀ start ∈ (IndexRun.start "/w" mistaken.files).toOption,
        start.2.1.cacheCapacity = none ∧
        (∀ entry ∈ start.2.2.1.files.entries, ∀ snapshot ∈ entry.2.snapshot.toOption,
          snapshot.version.file = entry.1) ∧
        (start.2.2.2.peek? "a.py").map (fun stored => (stored.text, stored.version.language)) =
          some ("", .rust) ∧
        (Index.results (lines.engine start.2.1) false start.2.2.2
          (start.1.inputs ((index lines "/w" false .json).run.run mistaken).2.files)).map
          (fun done => (done.1.file, done.1.text, done.1.language, done.2.isOk)) =
            [("a.py", "", .python, true)] := by
    decide +kernel
  obtain ⟨ended, facts⟩ := facts
  obtain ⟨_, given⟩ := gives_of_isOk ended
  generalize ((index lines "/w" false .json).run.run mistaken).2 = after at given facts
  obtain ⟨run, succeeds, persists⟩ := index_persists given
  obtain ⟨unlimited, named, known, answers⟩ := facts _ succeeds.start
  obtain ⟨stored, known, same⟩ := Option.map_eq_some_iff.mp known
  obtain ⟨text, language⟩ := Prod.mk.inj same
  obtain ⟨⟨⟨_, _, _⟩, result⟩, all, same⟩ := List.map_eq_singleton_iff.mp answers
  simp only [Prod.mk.injEq] at same
  obtain ⟨rfl, rfl, rfl, isOk⟩ := same
  cases result with
  | error error => cases isOk
  | ok outcome =>
    have member : (⟨"a.py", "", .python⟩, .ok outcome) ∈ run.results lines false after.files := by
      rw [IndexRun.results, show Index.results _ false run.store _ = _ from all]
      exact List.mem_singleton_self _
    have orderly : run.before.Orderly := by
      intro file snapshot kept
      obtain ⟨archived, listed, read⟩ := Archive.load?_eq_some_iff.mp kept
      exact named (file, archived) listed snapshot (by rw [read]; rfl)
    have belongs := Index.belongs_hydrated succeeds.hydrated
    have old : ¬ Index.IsNew false run.store ⟨"a.py", "", .python⟩ outcome.version := by
      refine Index.not_isNew_iff.mpr ⟨rfl, stored, known, ?_⟩
      rw [(belongs "a.py" stored known).digest, text,
        (Index.belongs_results (run.workspace.listed_inputs _) belongs member).1.digest]
    have current := persists.language unlimited orderly _ outcome member (fun new => absurd new old)
      fun other there _ => by
        cases known.symm.trans there
        exact text
    refine ⟨run, after, outcome, succeeds, persists, member, fun kept => ?_⟩
    rcases current.mp kept with full | sameLanguage
    · cases full
    · have python := sameLanguage stored known text
      rw [language] at python
      cases python

end Session

/-! ### Indexing again -/

/-- A store always has room for something. -/
theorem Config.cacheCapacity_ne_zero {config : Config} {settings : Settings}
    (valid : config.settings = .ok settings) : settings.cacheCapacity ≠ some 0 := by
  unfold Config.settings Overrides.settings at valid
  cases passed : config.parser.apply.validate with
  | error error =>
    rw [passed] at valid
    cases valid
  | ok _ =>
    rw [passed] at valid
    cases valid
    intro zero
    unfold Settings.validate at passed
    simp only [zero] at passed
    split at passed <;> cases passed

namespace IndexRun

variable {run again : IndexRun} {toolkit : Toolkit} {path : String} {everything : Bool}
  {format : OutputFormat} {console after : Console}

namespace Succeeds

theorem shelved (first : run.Succeeds toolkit path everything format console after) :
    ∃ place, run.workspace.Shelves after.files place ∧
      after.files.entry? place = some (.archive run.saved) ∧
      Workspace.openAt after.files path = .ok run.workspace := by
  obtain ⟨place, shelves, _, files⟩ := first.files_eq
  obtain ⟨stillShelves, there⟩ := shelves.replaced run.saved
  rw [files]
  exact ⟨place, stillShelves, there, shelves.openAt run.saved first.opened⟩

/-- A run on what another one left behind starts from where that one ended. -/
theorem again_iff (first : run.Succeeds toolkit path everything format console after)
    {every : Bool} {later : OutputFormat} {time output : String} {last : Console} :
    again.Succeeds toolkit path every later ⟨after.files, time, output⟩ last ↔
      again.workspace = run.workspace ∧ again.settings = run.settings ∧ again.before = run.saved ∧
      Index.hydrated run.settings run.saved = .ok again.store ∧
      Index.overflows (toolkit.engine run.settings) every again.store
        (run.workspace.inputs after.files) = false ∧
      Index.run (toolkit.engine run.settings) every time again.store run.saved
        (run.workspace.inputs after.files) = (.ok again.summary, again.saved) ∧
      last = ⟨(after.files.put run.workspace.archivePath (.archive run.saved)).put
        run.workspace.archivePath (.archive again.saved), time,
        output ++ Listing.summary later again.summary⟩ := by
  obtain ⟨place, shelves, there, opened⟩ := first.shelved
  have archive : run.workspace.openArchive after.files = .ok run.saved := first.openArchive
  have inputs : run.workspace.inputs (after.files.put run.workspace.archivePath
      (.archive run.saved)) = run.workspace.inputs after.files := by
    rw [shelves.put, run.workspace.inputs_replaced there]
  rw [← inputs]
  obtain ⟨workspace, settings, before, store, summary, saved⟩ := again
  constructor
  · intro succeeds
    obtain rfl : workspace = run.workspace :=
      Except.ok.inj (succeeds.opened.symm.trans opened)
    obtain rfl : before = run.saved := Except.ok.inj (succeeds.archive.symm.trans archive)
    obtain rfl : settings = run.settings :=
      Except.ok.inj (succeeds.settings.symm.trans first.settings)
    exact ⟨rfl, rfl, rfl, succeeds.hydrated, succeeds.fits, succeeds.indexed, succeeds.after⟩
  · rintro ⟨rfl, rfl, rfl, hydrated, fits, indexed, left⟩
    have initialized : run.workspace.isInitialized after.files = true := by
      rw [Workspace.isInitialized, FileTree.has, shelves.found]
      rfl
    exact ⟨opened, initialized, archive, first.settings, hydrated, fits, indexed, left⟩

end Succeeds

end IndexRun

/-- Files that have been indexed without a failure are found unchanged when they are indexed once
more, just if the store has room for all of them. -/
theorem Session.index_unchanged_iff {toolkit : Toolkit} {path : String}
    {format : OutputFormat} {console after : Console} {run : IndexRun}
    (first : run.Succeeds toolkit path false format console after)
    (noneFailed : run.summary.failed = []) (orderly : run.before.Orderly)
    (writable : ∀ input outcome, (input, .ok outcome) ∈ run.results toolkit false after.files →
      Index.IsNew false run.store input outcome.version → outcome.version.Writable)
    (apart : ∀ input ∈ (run.workspace.inputs after.files).filterMap Prod.snd,
      ∀ stored ∈ run.store.peek? input.file,
        Digest.ofText stored.text = Digest.ofText input.text → stored.text = input.text)
    (later : OutputFormat) (time output : String) :
    (∃ again : IndexRun, ∃ last,
      again.Succeeds toolkit path false later ⟨after.files, time, output⟩ last ∧
        again.summary.updated = 0 ∧ again.summary.removed = 0 ∧
        again.summary.unchanged = again.summary.files ∧ again.saved.files = run.saved.files) ↔
      ∀ capacity ∈ run.settings.cacheCapacity, run.summary.files ≤ capacity := by
  have listed := run.workspace.listed_inputs after.files
  have settled : Index.Settled (toolkit.engine run.settings) run.saved
      (run.workspace.inputs after.files) :=
    Index.settled_of_ran listed orderly first.hydrated first.ran first.fits_after noneFailed writable
      apart
  rw [first.ran.counted]
  constructor
  · rintro ⟨again, last, succeeds, updated, _, unchanged, _⟩
    obtain ⟨_, _, _, hydrated, _, indexed, _⟩ := first.again_iff.mp succeeds
    exact Index.room_of_run listed hydrated (Config.cacheCapacity_ne_zero first.settings) indexed
      updated unchanged
  · intro room
    obtain ⟨store, hydrated⟩ := settled.hydrated listed run.settings
    obtain ⟨fits, summary, saved, indexed, updated, removed, unchanged, same⟩ :=
      settled.run_of_room listed hydrated room time
    exact ⟨⟨run.workspace, run.settings, run.saved, store, summary, saved⟩, _,
      first.again_iff.mpr ⟨rfl, rfl, rfl, hydrated, fits, indexed, rfl⟩, updated, removed, unchanged,
      same⟩

namespace Session

/-- Two files, of which the store holds one. -/
def crowded : Console :=
  sample [("/w/.code-chunker/config.toml", "[parser]\ncache_capacity = 1\n"), ("/w/a.py", ""),
    ("/w/b.py", "")]

theorem index_unchanged_iff_crowded :
    ∃ run : IndexRun, ∃ after, run.Succeeds lines "/w" false .json crowded after ∧
      run.summary.failed = [] ∧ run.summary.files = 2 ∧ run.settings.cacheCapacity = some 1 ∧
      ¬ ∃ again : IndexRun, ∃ last,
        again.Succeeds lines "/w" false .json ⟨after.files, "", ""⟩ last ∧
          again.summary.updated = 0 ∧ again.summary.removed = 0 ∧
          again.summary.unchanged = again.summary.files ∧ again.saved.files = run.saved.files := by
  have facts : ((index lines "/w" false .json).run.run crowded).1.isOk = true ∧
      ∀ start ∈ (IndexRun.start "/w" crowded.files).toOption,
        (start.2.1.cacheCapacity = some 1 ∧ start.2.2.1.files.entries.length = 0 ∧
          start.2.2.2.slots.entries.length = 0) ∧
        let engine := lines.engine start.2.1
        let inputs := start.1.inputs ((index lines "/w" false .json).run.run crowded).2.files
        (Index.run engine false "" start.2.2.2 start.2.2.1 inputs).1.toOption.map
          (fun summary => (summary.files, summary.failed)) = some (2, []) ∧
        ∀ done ∈ Index.results engine false start.2.2.2 inputs,
          ∀ outcome ∈ done.2.toOption, outcome.version.lineCount = 0 ∧
            outcome.version.chunks.length = 0 ∧
            outcome.version.lineage.ordinals.entries.length = 0 ∧
            outcome.version.lineage.tombstones.length = 0 := by
    decide +kernel
  obtain ⟨ended, facts⟩ := facts
  obtain ⟨_, given⟩ := gives_of_isOk ended
  generalize ((index lines "/w" false .json).run.run crowded).2 = after at given facts
  obtain ⟨run, succeeds⟩ := gives_index.mp given
  obtain ⟨⟨capacity, nothing, empty⟩, counted, plain⟩ := facts _ succeeds.start
  simp only [List.length_eq_zero_iff] at capacity nothing empty counted plain
  rw [show Index.run _ false "" run.store run.before _ = _ from succeeds.indexed_after] at counted
  obtain ⟨files, failed⟩ := Prod.mk.inj (Option.some.inj counted)
  have orderly : run.before.Orderly := by
    intro file snapshot kept
    obtain ⟨archived, listed, _⟩ := Archive.load?_eq_some_iff.mp kept
    rw [nothing] at listed
    cases listed
  have unknown : ∀ file, run.store.peek? file = none := by
    intro file
    rw [Store.peek?, Dictionary.get?, empty]
    rfl
  have writable : ∀ input outcome, (input, .ok outcome) ∈ run.results lines false after.files →
      outcome.version.Writable := by
    intro input outcome member
    obtain ⟨lineCount, chunks, ordinals, tombstones⟩ := plain _ member outcome rfl
    have fits : outcome.version.lineCount < Word.limit := by
      rw [lineCount]
      decide
    exact ⟨⟨fits, by simp [ordinals], by simp [tombstones]⟩, by simp [chunks], by simp [chunks]⟩
  have unchanged := index_unchanged_iff succeeds failed orderly
    (fun input outcome member _ => writable input outcome member)
    (fun input _ stored known => by rw [unknown] at known; cases known) .json "" ""
  refine ⟨run, after, succeeds, failed, files, capacity, fun quiet => ?_⟩
  have room := unchanged.mp quiet 1 capacity
  omega

end Session

end Chunking
