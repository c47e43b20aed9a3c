/-
Files that take the place of files. A path is walked step by step, and each step
only asks whether something is there and whether it is a directory. So when one
file takes the place of another, every path leads to where it led before, and what
is found there is the same everywhere but at this place.

The archive of a workspace is such a file. Storing another archive in its place
changes neither the configuration nor the files that are selected.
-/

import Chunking.Proofs.Dictionary
import Chunking.Workspace

namespace Chunking

/-! ### Texts that are split -/

namespace Text

theorem splitWhere_ne_nil (separates : Char → Bool) (chars : List Char) :
    splitWhere separates chars ≠ [] := by
  cases chars with
  | nil => exact List.cons_ne_nil _ _
  | cons char rest =>
    unfold splitWhere
    split
    · exact List.cons_ne_nil _ _
    · split <;> exact List.cons_ne_nil _ _

/-- Where a separator stands, both sides are split on their own. -/
theorem splitWhere_append {separates : Char → Bool} {mark : Char}
    (separator : separates mark = true) (front back : List Char) :
    splitWhere separates (front ++ mark :: back) =
      splitWhere separates front ++ splitWhere separates back := by
  induction front with
  | nil => exact if_pos separator
  | cons char rest inductionHypothesis =>
    rw [List.cons_append, splitWhere, splitWhere, inductionHypothesis]
    split
    · rfl
    · cases first : splitWhere separates rest with
      | nil => exact absurd first (splitWhere_ne_nil separates rest)
      | cons piece pieces => rfl

theorem splitWhere_whole {separates : Char → Bool} {chars : List Char}
    (none : ∀ char ∈ chars, separates char = false) : splitWhere separates chars = [chars] := by
  induction chars with
  | nil => rfl
  | cons char rest inductionHypothesis =>
    rw [splitWhere, none char List.mem_cons_self,
      inductionHypothesis fun other member => none other (List.mem_cons_of_mem _ member)]
    rfl

end Text

namespace FileTree

open Text

/-- A name of a file, as it stands at the end of a path. -/
structure IsPlain (name : String) : Prop where
  whole : ∀ char ∈ name.toList, (char == '/') = false
  step : ["", ".", ".."].contains name = false
  isName : isName name = true

theorem IsPlain.splitAt_child {name : String} (plain : IsPlain name) (directory : String) :
    splitAt '/' (directory ++ "/" ++ name) = splitAt '/' directory ++ [name] := by
  have chars : (directory ++ "/" ++ name).toList = directory.toList ++ '/' :: name.toList := by
    rw [String.toList_append, String.toList_append, List.append_assoc]
    rfl
  rw [splitAt, chars, splitWhere_append rfl, splitWhere_whole plain.whole, List.map_append,
    ← splitAt, List.map_singleton, String.ofList_toList]

/-! ### Walking -/

theorem walk_append (tree : FileTree) (place : Place) (steps more : List String) :
    tree.walk place (steps ++ more) =
      (tree.walk place steps).bind fun next => tree.walk next more := by
  induction steps generalizing place with
  | nil => rfl
  | cons step rest inductionHypothesis =>
    rw [List.cons_append, walk, walk]
    simp only [inductionHypothesis]
    split
    · rfl
    · split
      · rfl
      · split
        · rfl
        · split <;> rfl

theorem IsPlain.walk_name {name : String} (plain : IsPlain name) (tree : FileTree) (place : Place) :
    tree.walk place [name] =
      if tree.isDirectory place && (tree.entry? (place ++ [name])).isSome
      then some (place ++ [name]) else none := by
  have step := plain.step
  simp only [List.contains_cons, Bool.or_eq_false_iff] at step
  obtain ⟨notEmpty, notHere, notAbove, _⟩ := step
  rw [walk, notEmpty, notHere, notAbove]
  cases tree.isDirectory place
  · rfl
  · cases (tree.entry? (place ++ [name])).isSome <;> rfl

/-- What stands at a place is a file or an archive. -/
def Entry.IsFile : Entry → Prop
  | .directory => False
  | _ => True

/-- A file stands at a place. -/
def HasFile (tree : FileTree) (place : Place) : Prop :=
  ∃ entry, tree.entry? place = some entry ∧ entry.IsFile

namespace HasFile

variable {tree : FileTree} {place : Place}

theorem isSome (hasFile : tree.HasFile place) : (tree.entry? place).isSome = true := by
  obtain ⟨entry, there, _⟩ := hasFile
  rw [there]
  rfl

theorem isDirectory (hasFile : tree.HasFile place) : tree.isDirectory place = false := by
  obtain ⟨entry, there, isFile⟩ := hasFile
  rw [FileTree.isDirectory, there]
  cases entry with
  | directory => exact isFile.elim
  | file content => rfl
  | archive archive => rfl

theorem ne_nil (hasFile : tree.HasFile place) : place ≠ [] := by
  rintro rfl
  cases hasFile.isDirectory

end HasFile

/-- Two trees that differ in files only. -/
structure Alike (tree other : FileTree) : Prop where
  workingDirectory : other.workingDirectory = tree.workingDirectory
  entry? : ∀ place,
    other.entry? place = tree.entry? place ∨ tree.HasFile place ∧ other.HasFile place

namespace Alike

variable {tree other : FileTree}

theorem isDirectory (alike : Alike tree other) (place : Place) :
    other.isDirectory place = tree.isDirectory place := by
  rcases alike.entry? place with same | ⟨before, after⟩
  · rw [FileTree.isDirectory, FileTree.isDirectory, same]
  · rw [before.isDirectory, after.isDirectory]

theorem isSome (alike : Alike tree other) (place : Place) :
    (other.entry? place).isSome = (tree.entry? place).isSome := by
  rcases alike.entry? place with same | ⟨before, after⟩
  · rw [same]
  · rw [before.isSome, after.isSome]

theorem start (alike : Alike tree other) (path : String) : other.start path = tree.start path := by
  rw [FileTree.start, FileTree.start, alike.workingDirectory]

theorem walk (alike : Alike tree other) (place : Place) (steps : List String) :
    other.walk place steps = tree.walk place steps := by
  induction steps generalizing place with
  | nil => rfl
  | cons step rest inductionHypothesis =>
    rw [FileTree.walk, FileTree.walk]
    simp only [alike.isDirectory, alike.isSome, inductionHypothesis]

theorem find? (alike : Alike tree other) (path : String) : other.find? path = tree.find? path := by
  rw [FileTree.find?, FileTree.find?, alike.start, alike.walk]

theorem has (alike : Alike tree other) (path : String) : other.has path = tree.has path := by
  rw [FileTree.has, FileTree.has, alike.find?]

end Alike

/-! ### One file in the place of another -/

/-- The tree with another entry at a place. -/
def replaced (tree : FileTree) (place : Place) (entry : Entry) : FileTree :=
  { tree with entries := tree.entries.insert (pathOf place) entry }

section replaced

variable {tree : FileTree} {place : Place}

theorem entry?_replaced (tree : FileTree) (place : Place) (new : Entry) (other : Place) :
    FileTree.entry? (tree.replaced place new) other =
      if other ≠ [] ∧ pathOf other = pathOf place then some new else tree.entry? other := by
  cases other with
  | nil => exact (if_neg fun both => both.1 rfl).symm
  | cons step rest =>
    by_cases same : pathOf (step :: rest) = pathOf place
    · rw [if_pos ⟨List.cons_ne_nil _ _, same⟩, entry?, same]
      exact Dictionary.get?_insert_self ..
    · rw [if_neg fun both => same both.2]
      exact Dictionary.get?_insert_of_ne _ same new

/-- Only the path of a place counts. -/
theorem entry?_of_pathOf {other : Place} (nonempty : place ≠ [] ∧ other ≠ [])
    (same : pathOf other = pathOf place) : tree.entry? other = tree.entry? place := by
  unfold entry?
  rw [if_neg (by simpa using nonempty.2), if_neg (by simpa using nonempty.1), same]

theorem alike_replaced (hasFile : tree.HasFile place) (new : Archive) :
    Alike tree (tree.replaced place (.archive new)) := by
  refine ⟨rfl, fun other => ?_⟩
  rw [HasFile, HasFile, entry?_replaced]
  by_cases here : other ≠ [] ∧ pathOf other = pathOf place
  · rw [if_pos here, entry?_of_pathOf ⟨hasFile.ne_nil, here.1⟩ here.2]
    exact Or.inr ⟨hasFile, _, rfl, trivial⟩
  · rw [if_neg here]
    exact Or.inl rfl

theorem replaced_replaced (tree : FileTree) (place : Place) (first second : Entry) :
    (tree.replaced place first).replaced place second = tree.replaced place second :=
  congrArg (FileTree.mk · tree.workingDirectory) (Dictionary.insert_insert ..)

end replaced

/-- A path that ends with a name leads into a directory, and to something in it. -/
theorem find?_child {tree : FileTree} {directory name : String} (plain : IsPlain name)
    {place : Place} (found : tree.find? (directory ++ "/" ++ name) = some place) :
    ∃ parent,
      tree.walk (tree.start (directory ++ "/" ++ name)) (splitAt '/' directory) = some parent ∧
        tree.isDirectory parent = true ∧ place = parent ++ [name] ∧
        (tree.entry? place).isSome = true := by
  unfold find? at found
  split at found
  · cases found
  · rw [plain.splitAt_child, walk_append] at found
    obtain ⟨parent, walked, last⟩ := Option.bind_eq_some_iff.mp found
    rw [plain.walk_name] at last
    split at last
    next steps =>
      cases last
      rw [Bool.and_eq_true] at steps
      exact ⟨parent, walked, steps.1, rfl, steps.2⟩
    · cases last

/-- A file is put in the place of the one that its path leads to. -/
theorem put_eq_replaced {tree : FileTree} {directory name : String} (plain : IsPlain name)
    {place : Place} (found : tree.find? (directory ++ "/" ++ name) = some place)
    (hasFile : tree.HasFile place) (new : Entry) :
    tree.put (directory ++ "/" ++ name) new = tree.replaced place new := by
  obtain ⟨parent, walked, isDirectory, rfl, _⟩ := find?_child plain found
  rw [put, Path.lastSegment, plain.splitAt_child, List.dropLast_concat, walked]
  simp only [List.getLastD_concat, plain.step, plain.isName, isDirectory, hasFile.isDirectory]
  rfl

/-- Where the path of a file begins does not depend on the name of the file. -/
theorem start_child (tree : FileTree) (directory first second : String) :
    tree.start (directory ++ "/" ++ first) = tree.start (directory ++ "/" ++ second) := by
  have same : Path.isAbsolute (directory ++ "/" ++ first) =
      Path.isAbsolute (directory ++ "/" ++ second) := by
    unfold Path.isAbsolute startsWith
    rw [String.toList_append, String.toList_append, String.toList_append, String.toList_append]
    cases directory.toList <;> rfl
  rw [start, start, same]

theorem pathOf_child (parent : Place) :
    ∃ stem, ∀ name, pathOf (parent ++ [name]) = stem ++ name := by
  have joined : ∃ stem, ∀ name : String,
      String.intercalate "/" (parent ++ [name]) = stem ++ name := by
    induction parent with
    | nil => exact ⟨"", fun name => by simp⟩
    | cons step rest inductionHypothesis =>
      obtain ⟨stem, joined⟩ := inductionHypothesis
      refine ⟨step ++ "/" ++ stem, fun name => ?_⟩
      rw [List.cons_append, String.intercalate_cons_of_ne_nil (List.concat_ne_nil _ _), joined]
      simp only [String.append_assoc]
  obtain ⟨stem, joined⟩ := joined
  exact ⟨"/" ++ stem, fun name => by rw [pathOf, joined, String.append_assoc]⟩

/-- Files of one directory can be told apart by their names. -/
theorem pathOf_child_inj {parent : Place} {first second : String}
    (same : pathOf (parent ++ [first]) = pathOf (parent ++ [second])) : first = second := by
  obtain ⟨stem, child⟩ := pathOf_child parent
  rw [child, child] at same
  exact String.append_right_inj stem |>.mp same

/-! ### Contents -/

section contents

variable {tree : FileTree} {place : Place} {old new : Archive}

theorem at?_replaced_of_archive (there : tree.entry? place = some (.archive old)) (path : String) :
    (tree.replaced place (.archive new)).at? path = tree.at? path ∨
      tree.at? path = some (.archive old) ∧
        (tree.replaced place (.archive new)).at? path = some (.archive new) := by
  have hasFile : tree.HasFile place := ⟨_, there, trivial⟩
  have alike := alike_replaced hasFile new
  unfold at?
  rw [alike.find?]
  cases tree.find? path with
  | none => exact Or.inl rfl
  | some other =>
    rw [Option.bind_some, Option.bind_some, entry?_replaced]
    by_cases here : other ≠ [] ∧ pathOf other = pathOf place
    · rw [if_pos here, entry?_of_pathOf ⟨hasFile.ne_nil, here.1⟩ here.2]
      exact Or.inr ⟨there, rfl⟩
    · exact Or.inl (if_neg here)

/-- Archives are not read as texts. -/
theorem readText?_replaced (there : tree.entry? place = some (.archive old)) (path : String) :
    (tree.replaced place (.archive new)).readText? path = tree.readText? path := by
  unfold readText?
  rcases at?_replaced_of_archive there path with same | ⟨before, after⟩
  · rw [same]
  · rw [before, after]

/-- All archives have the same size. -/
theorem filesBelow_replaced (there : tree.entry? place = some (.archive old)) (directory : String) :
    (tree.replaced place (.archive new)).filesBelow directory = tree.filesBelow directory := by
  have held : tree.entries.get? (pathOf place) = some (.archive old) := by
    rw [← there, entry?, if_neg (by simpa using HasFile.ne_nil ⟨_, there, trivial⟩)]
  unfold filesBelow below
  simp only [List.filterMap_filterMap]
  refine Dictionary.filterMap_insert held ?_
  cases Text.after? _ (pathOf place) <;> rfl

end contents

theorem after?_inj {mark first second rest : String} (left : after? mark first = some rest)
    (right : after? mark second = some rest) : first = second := by
  have whole : ∀ {text : String}, after? mark text = some rest →
      text.toList = mark.toList ++ rest.toList := by
    intro text found
    unfold after? startsWith at found
    split at found
    next begins =>
      obtain ⟨tail, whole⟩ := List.isPrefixOf_iff_prefix.mp begins
      cases found
      rw [← whole, List.drop_left, String.toList_ofList]
    · cases found
  exact String.toList_inj.mp ((whole left).trans (whole right).symm)

theorem nodup_below (tree : FileTree) (directory : String) :
    ((tree.below directory).map Prod.fst).Nodup := by
  have distinct := List.pairwise_map.mp (Dictionary.nodup_keys tree.entries)
  refine List.pairwise_map.mpr (distinct.filterMap _ ?_)
  intro first second different left leftFound right rightFound same
  obtain ⟨leftRest, leftAfter, rfl⟩ := Option.map_eq_some_iff.mp leftFound
  obtain ⟨rightRest, rightAfter, rfl⟩ := Option.map_eq_some_iff.mp rightFound
  cases (same : leftRest = rightRest)
  exact different (after?_inj leftAfter rightAfter)

/-- The files below a directory have different paths. -/
theorem nodup_filesBelow (tree : FileTree) (directory : String) :
    ((tree.filesBelow directory).map Prod.fst).Nodup := by
  have distinct := List.pairwise_map.mp (tree.nodup_below directory)
  refine List.pairwise_map.mpr (distinct.filterMap _ ?_)
  -- A file is found under the path that it stands at, whatever kind of file it is.
  rintro ⟨path, entry⟩ ⟨otherPath, otherEntry⟩ different left leftFound right rightFound
  cases entry <;> cases leftFound <;> cases otherEntry <;> cases rightFound <;> exact different

end FileTree

namespace Workspace

open FileTree

theorem isPlain_archive : IsPlain "chunks.db" := ⟨by simp, by decide, by decide⟩

theorem isPlain_config : IsPlain "config.toml" := ⟨by simp, by decide, by decide⟩

/-- Files of the program stand in the directory that belongs to it. -/
theorem join_stateDirectoryOf (root : String) {name : String}
    (relative : Text.Path.isAbsolute name = false) :
    Text.Path.join (stateDirectoryOf root) name = stateDirectoryOf root ++ "/" ++ name := by
  have noSlash : Text.endsWith "/" (stateDirectoryOf root) = false := by
    have last : ∀ stem, Text.endsWith "/" (stem ++ stateDirectory) = false := by
      intro stem
      rw [Text.endsWith, String.toList_append, List.isSuffixOf, List.reverse_append]
      rfl
    rw [stateDirectoryOf, Text.Path.join, if_neg (by decide)]
    split
    · exact last root
    · exact last (root ++ "/")
  rw [Text.Path.join, relative, noSlash]
  rfl

theorem archivePath_eq (workspace : Workspace) :
    workspace.archivePath = stateDirectoryOf workspace.root ++ "/" ++ "chunks.db" :=
  join_stateDirectoryOf _ (by decide)

theorem configPathOf_eq (root : String) :
    configPathOf root = stateDirectoryOf root ++ "/" ++ "config.toml" :=
  join_stateDirectoryOf _ (by decide)

/-- A tree has a file at the place of the archive. -/
structure Shelves (workspace : Workspace) (files : FileTree) (place : Place) : Prop where
  found : files.find? workspace.archivePath = some place
  hasFile : files.HasFile place

theorem shelves_of_openArchive {workspace : Workspace} {files : FileTree} {archive : Archive}
    (initialized : workspace.isInitialized files = true)
    (opened : workspace.openArchive files = .ok archive) :
    ∃ place, workspace.Shelves files place := by
  obtain ⟨place, found⟩ := Option.isSome_iff_exists.mp initialized
  obtain ⟨_, _, _, _, isSome⟩ := find?_child isPlain_archive (archivePath_eq workspace ▸ found)
  obtain ⟨entry, there⟩ := Option.isSome_iff_exists.mp isSome
  refine ⟨place, found, entry, there, ?_⟩
  have standing : files.at? workspace.archivePath = some entry := by
    rw [at?, found, Option.bind_some, there]
  unfold openArchive at opened
  simp only [standing] at opened
  cases entry with
  | directory => cases opened
  | file content => trivial
  | archive archive => trivial

namespace Shelves

variable {workspace : Workspace} {files : FileTree} {place : Place}

theorem put (shelves : workspace.Shelves files place) (entry : Entry) :
    files.put workspace.archivePath entry = files.replaced place entry := by
  have found := shelves.found
  rw [archivePath_eq] at found ⊢
  exact put_eq_replaced isPlain_archive found shelves.hasFile entry

theorem replaced (shelves : workspace.Shelves files place) (archive : Archive) :
    workspace.Shelves (files.replaced place (.archive archive)) place ∧
      FileTree.entry? (files.replaced place (.archive archive)) place =
        some (.archive archive) := by
  have there :
      FileTree.entry? (files.replaced place (.archive archive)) place = some (.archive archive) :=
    (entry?_replaced ..).trans (if_pos ⟨shelves.hasFile.ne_nil, rfl⟩)
  refine ⟨⟨?_, _, there, trivial⟩, there⟩
  rw [(alike_replaced shelves.hasFile archive).find?]
  exact shelves.found

theorem openArchive (shelves : workspace.Shelves files place) (archive : Archive) :
    workspace.openArchive (files.replaced place (.archive archive)) = .ok archive := by
  obtain ⟨⟨found, _⟩, there⟩ := shelves.replaced archive
  have standing : (files.replaced place (.archive archive)).at? workspace.archivePath =
      some (.archive archive) := by
    rw [at?, found, Option.bind_some, there]
  unfold Workspace.openArchive
  simp only [standing]

/-- The configuration is another file than the archive. -/
theorem loadConfig (shelves : workspace.Shelves files place) (archive : Archive) :
    Workspace.loadConfig (files.replaced place (.archive archive)) workspace.root =
      Workspace.loadConfig files workspace.root := by
  have alike := alike_replaced shelves.hasFile archive
  have same : (files.replaced place (.archive archive)).readText? (configPathOf workspace.root) =
      files.readText? (configPathOf workspace.root) := by
    unfold readText? at?
    rw [alike.find?]
    cases found : files.find? (configPathOf workspace.root) with
    | none => rfl
    | some other =>
      rw [configPathOf_eq] at found
      have archiveFound := shelves.found
      rw [archivePath_eq] at archiveFound
      obtain ⟨parent, walked, _, rfl, _⟩ := find?_child isPlain_config found
      obtain ⟨directory, archiveWalked, _, rfl, _⟩ := find?_child isPlain_archive archiveFound
      rw [start_child _ _ _ "config.toml", walked] at archiveWalked
      cases archiveWalked
      have elsewhere : pathOf (parent ++ ["config.toml"]) ≠ pathOf (parent ++ ["chunks.db"]) :=
        fun same => absurd (pathOf_child_inj same) (by decide)
      rw [Option.bind_some, Option.bind_some, entry?_replaced, if_neg fun both => elsewhere both.2]
  unfold Workspace.loadConfig
  simp only [alike.has, same]

theorem openAt (shelves : workspace.Shelves files place) (archive : Archive) {path : String}
    (opened : Workspace.openAt files path = .ok workspace) :
    Workspace.openAt (files.replaced place (.archive archive)) path = .ok workspace := by
  have alike := alike_replaced shelves.hasFile archive
  rw [← opened]
  unfold Workspace.openAt at opened ⊢
  rw [alike.find?]
  cases found : files.find? path with
  | none => rfl
  | some root =>
    rw [found] at opened
    simp only [alike.isDirectory]
    split
    · rfl
    next isDirectory =>
      simp only at opened
      rw [if_neg isDirectory] at opened
      have rootOf : workspace.root = pathOf root := by
        cases loaded : Workspace.loadConfig files (pathOf root) with
        | error failure =>
          rw [loaded] at opened
          cases opened
        | ok config =>
          rw [loaded] at opened
          cases opened
          rfl
      rw [← rootOf, shelves.loadConfig]

end Shelves

/-- What is selected does not depend on what the archive holds. -/
theorem sourceFiles_replaced (workspace : Workspace) {files : FileTree} {place : Place}
    {old : Archive} (there : files.entry? place = some (.archive old)) (new : Archive) :
    workspace.sourceFiles (files.replaced place (.archive new)) = workspace.sourceFiles files := by
  rw [sourceFiles, sourceFiles, filesBelow_replaced there]

/-- Every selected file has its own identity. -/
theorem nodup_sourceFiles (workspace : Workspace) (files : FileTree) :
    ((workspace.sourceFiles files).map SourceFile.identity).Nodup := by
  have distinct := List.pairwise_map.mp (files.nodup_filesBelow workspace.root)
  refine List.pairwise_map.mpr (distinct.filterMap _ ?_)
  have identity : ∀ {file : String × Nat} {source : SourceFile},
      (if isHidden file.1 || workspace.config.maxFileBytes < file.2 then none
      else (workspace.config.selects? file.1).map fun language =>
        ({ identity := file.1, path := Text.Path.join workspace.root file.1, language } :
          SourceFile)) = some source → source.identity = file.1 := by
    intro file source given
    split at given
    · cases given
    · obtain ⟨language, _, rfl⟩ := Option.map_eq_some_iff.mp given
      rfl
  intro first second different left leftFound right rightFound
  rw [identity leftFound, identity rightFound]
  exact different

theorem readSource_replaced {files : FileTree} {place : Place} {old : Archive}
    (there : files.entry? place = some (.archive old)) (new : Archive) (source : SourceFile) :
    readSource (files.replaced place (.archive new)) source = readSource files source := by
  rw [readSource, readSource, readText?_replaced there]

end Workspace

end Chunking
