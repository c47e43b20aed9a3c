/-
Indexing files: which versions are entered into the archive, and which are left
alone. A version is entered if everything is, or if the digest of its text is not
the one that the store knew for the file when the run began. Whether the version in
the archive is the one that the engine returns is not asked, so a file can be left
with an older version of the same text.

As long as there is room for all files that are in use, the engine answers for each
file as if it were the only one.
-/

import Chunking.Proofs.Hydration

namespace Chunking

/-! ### Several files -/

namespace Engine

variable (engine : Engine)

/-- What is asked for when a file is brought up to date. -/
def SourceInput.call (request : Request) (input : SourceInput) : Call :=
  ⟨request, input.text, input.language⟩

theorem perform_roomy (request : Request) {store : Store} {files : List String}
    (roomy : store.Roomy files) {input : SourceInput} (member : input.file ∈ files) :
    (engine.perform request store input).2.Roomy files ∧
      ∀ name, name ≠ input.file →
        (engine.perform request store input).2.peek? name = store.peek? name := by
  have abandoned : (store.abandoned input.file).Roomy files ∧
      ∀ name, name ≠ input.file → (store.abandoned input.file).peek? name = store.peek? name :=
    ⟨roomy.abandoned member, fun name different => store.peek?_abandoned_of_ne different⟩
  unfold perform
  rw [transact_run]
  cases engine.registry.get input.language with
  | error error => exact ⟨roomy, fun _ _ => rfl⟩
  | ok processor =>
    simp only
    split
    · exact abandoned
    · split
      · exact abandoned
      · split
        · exact abandoned
        · rw [roomy.publish member]
          exact ⟨roomy.touch member _, fun name different => store.peek?_touch_of_ne different _⟩

/-- Where there is room for all files, each is answered as if it were the only one. -/
theorem performAll_roomy (request : Request) {store : Store} {files : List String}
    (roomy : store.Roomy files) {inputs : List SourceInput}
    (listed : ∀ input ∈ inputs, input.file ∈ files)
    (distinct : (inputs.map SourceInput.file).Nodup) :
    (engine.performAll request store inputs).1 =
      inputs.map fun input =>
        engine.answer input.file (store.peek? input.file) (input.call request) := by
  induction inputs generalizing store with
  | nil => rfl
  | cons input rest inductionHypothesis =>
    rw [List.map_cons, List.nodup_cons] at distinct
    obtain ⟨stillRoomy, others⟩ :=
      engine.perform_roomy request roomy (listed input List.mem_cons_self)
    have answered := (engine.perform_eq input.file store (input.call request)).1
    have later := inductionHypothesis stillRoomy
      (fun other member => listed other (List.mem_cons_of_mem _ member)) distinct.2
    rw [List.map_cons, ← answered]
    refine congrArg _ (later.trans (List.map_congr_left fun other member => ?_))
    rw [others]
    exact fun same => distinct.1 (same ▸ List.mem_map_of_mem member)

theorem overflowsAny_cons (request : Request) (store : Store) (input : SourceInput)
    (rest : List SourceInput) :
    engine.overflowsAny request store (input :: rest) = false ↔
      engine.Fits input.file (store.peek? input.file) (input.call request) ∧
        engine.overflowsAny request (engine.perform request store input).2 rest = false := by
  rw [overflowsAny, Bool.or_eq_false_iff]
  exact and_congr_left' (engine.overflows_eq_false_iff input.file store (input.call request))

/-- Where there is room for all files, the program stops over none of them if it would not stop over
one alone. -/
theorem overflowsAny_roomy (request : Request) {store : Store} {files : List String}
    (roomy : store.Roomy files) {inputs : List SourceInput}
    (listed : ∀ input ∈ inputs, input.file ∈ files)
    (distinct : (inputs.map SourceInput.file).Nodup)
    (fits : ∀ input ∈ inputs,
      engine.Fits input.file (store.peek? input.file) (input.call request)) :
    engine.overflowsAny request store inputs = false := by
  induction inputs generalizing store with
  | nil => rfl
  | cons input rest inductionHypothesis =>
    rw [List.map_cons, List.nodup_cons] at distinct
    obtain ⟨stillRoomy, others⟩ :=
      engine.perform_roomy request roomy (listed input List.mem_cons_self)
    refine (engine.overflowsAny_cons request store input rest).mpr
      ⟨fits input List.mem_cons_self, inductionHypothesis stillRoomy
        (fun other member => listed other (List.mem_cons_of_mem _ member)) distinct.2
        fun other member => ?_⟩
    rw [others]
    · exact fits other (List.mem_cons_of_mem _ member)
    · exact fun same => distinct.1 (same ▸ List.mem_map_of_mem member)

/-- A file is answered from the snapshot that it had, unless it was dropped before its turn. -/
theorem performAll_answers (request : Request) {store : Store} {inputs : List SourceInput}
    (distinct : (inputs.map SourceInput.file).Nodup) {input : SourceInput}
    {result : Except Error Outcome}
    (member : (input, result) ∈ inputs.zip (engine.performAll request store inputs).1) :
    ∃ prior, (prior = store.peek? input.file ∨ prior = none) ∧
      result = engine.answer input.file prior (input.call request) ∧
      (engine.overflowsAny request store inputs = false →
        engine.Fits input.file prior (input.call request)) := by
  induction inputs generalizing store with
  | nil => cases member
  | cons first rest inductionHypothesis =>
    rw [List.map_cons, List.nodup_cons] at distinct
    rcases List.mem_cons.mp member with same | later
    · obtain ⟨rfl, rfl⟩ := Prod.mk.inj same
      exact ⟨_, Or.inl rfl, (engine.perform_eq input.file store (input.call request)).1,
        fun fits => ((engine.overflowsAny_cons request store input rest).mp fits).1⟩
    · obtain ⟨prior, known, answered, fitsRest⟩ := inductionHypothesis distinct.2 later
      refine ⟨prior, ?_, answered,
        fun fits => fitsRest ((engine.overflowsAny_cons request store first rest).mp fits).2⟩
      have different : input.file ≠ first.file := fun same =>
        distinct.1 (same ▸ List.mem_map_of_mem (List.of_mem_zip later).1)
      rcases known with kept | gone
      · rcases engine.peek?_perform_of_ne request store first different with same | dropped
        · exact Or.inl (kept.trans same)
        · exact Or.inr (kept.trans dropped)
      · exact Or.inr gone

theorem length_performAll (request : Request) (store : Store) (inputs : List SourceInput) :
    (engine.performAll request store inputs).1.length = inputs.length := by
  induction inputs generalizing store with
  | nil => rfl
  | cons input rest inductionHypothesis => exact congrArg Nat.succ (inductionHypothesis _)

end Engine

namespace Index

open Engine

/-! ### Known digests -/

theorem knownDigests_store (files : List String) (store : Store) :
    (∀ name, (knownDigests files store).2.peek? name = store.peek? name) ∧
      (knownDigests files store).2.capacity = store.capacity ∧
      (knownDigests files store).2.size = store.size := by
  induction files generalizing store with
  | nil => exact ⟨fun _ => rfl, rfl, rfl⟩
  | cons file rest inductionHypothesis =>
    obtain ⟨peeked, capacity, size⟩ := inductionHypothesis (store.snapshot file).2
    obtain ⟨_, usedPeeked, usedCapacity, usedSize⟩ := store.snapshot_spec file
    exact ⟨fun name => (peeked name).trans (usedPeeked name), capacity.trans usedCapacity,
      size.trans usedSize⟩

theorem lookup_knownDigests (files : List String) (store : Store) (file : String) :
    (knownDigests files store).1.lookup file =
      if file ∈ files then (store.peek? file).map fun snapshot => snapshot.version.textHash
      else none := by
  induction files generalizing store with
  | nil => rfl
  | cons first rest inductionHypothesis =>
    obtain ⟨looked, peeked, _, _⟩ := store.snapshot_spec first
    have later := inductionHypothesis (store.snapshot first).2
    rw [peeked file] at later
    rw [knownDigests]
    simp only [looked]
    by_cases same : file = first
    · rw [← same] at later ⊢
      rw [if_pos List.mem_cons_self]
      cases known : store.peek? file with
      | some snapshot => simp
      | none =>
        rw [known, Option.map_none, ite_self] at later
        exact later
    · have other : (file == first) = false := beq_eq_false_iff_ne.mpr same
      simp only [List.mem_cons, same, false_or]
      rw [← later]
      cases store.peek? first with
      | none => rfl
      | some snapshot => simp [List.lookup_cons, other]

/-! ### Entering -/

/-- Whether the version of a result is entered. -/
def isEntered (everything : Bool) (known : List (String × String)) :
    SourceInput × Except Error Outcome → Bool
  | (_, .error _) => false
  | (input, .ok outcome) => everything || known.lookup input.file != some outcome.version.textHash

def isFailed (done : SourceInput × Except Error Outcome) : Bool :=
  match done.2 with
  | .error _ => true
  | .ok _ => false

/-- What becomes of the archive and the summary when results are entered. -/
structure Entered (everything : Bool) (known : List (String × String)) (summary : Summary)
    (archive : Archive) (results : List (SourceInput × Except Error Outcome))
    (counted : Summary) (after : Archive) : Prop where
  files : counted.files = summary.files
  failed : counted.failed = summary.failed ++ (results.filter isFailed).map fun done => done.1.file
  updated : counted.updated = summary.updated + results.countP (isEntered everything known)
  total : counted.updated + counted.unchanged + counted.failed.length =
    summary.updated + summary.unchanged + summary.failed.length + results.length
  entry : ∀ input outcome, (input, .ok outcome) ∈ results →
    isEntered everything known (input, .ok outcome) = true →
      after.files.get? input.file = some (Archive.entry ⟨outcome.version, input.text⟩)
  kept : ∀ file, (∀ done ∈ results, done.1.file = file → isEntered everything known done = false) →
    after.files.get? file = archive.files.get? file

namespace Entered

variable {everything : Bool} {known : List (String × String)} {summary : Summary}
  {archive : Archive} {input : SourceInput} {rest : List (SourceInput × Except Error Outcome)}
  {counted : Summary} {after : Archive}

theorem failed_cons {error : Error}
    (later : Entered everything known { summary with failed := summary.failed ++ [input.file] }
      archive rest counted after) :
    Entered everything known summary archive ((input, .error error) :: rest) counted after where
  files := later.files
  failed := later.failed.trans (List.append_assoc ..)
  updated := later.updated
  total := by
    have total := later.total
    simp only [List.length_append, List.length_cons, List.length_nil] at total ⊢
    omega
  entry := by
    intro other outcome member entered
    rcases List.mem_cons.mp member with same | listed
    · cases (Prod.mk.inj same).2
    · exact later.entry other outcome listed entered
  kept := fun file left =>
    later.kept file fun done member => left done (List.mem_cons_of_mem _ member)

theorem left_cons {outcome : Outcome} {chunks : Nat}
    (left : isEntered everything known (input, .ok outcome) = false)
    (later : Entered everything known
      { summary with chunks := chunks, unchanged := summary.unchanged + 1 } archive rest counted
      after) :
    Entered everything known summary archive ((input, .ok outcome) :: rest) counted after where
  files := later.files
  failed := later.failed
  updated := by
    rw [List.countP_cons_of_neg (by rw [left]; exact Bool.false_ne_true)]
    exact later.updated
  total := by
    have total := later.total
    simp only [List.length_cons] at total ⊢
    omega
  entry := by
    intro other found member entered
    rcases List.mem_cons.mp member with same | listed
    · rw [same, left] at entered
      cases entered
    · exact later.entry other found listed entered
  kept := fun file left =>
    later.kept file fun done member => left done (List.mem_cons_of_mem _ member)

theorem entered_cons {outcome : Outcome} {chunks : Nat}
    (entered : isEntered everything known (input, .ok outcome) = true)
    (named : outcome.version.file = input.file)
    (new : ∀ done ∈ rest, done.1.file ≠ input.file)
    (later : Entered everything known
      { summary with chunks := chunks, updated := summary.updated + 1 }
      (archive.withSnapshot ⟨outcome.version, input.text⟩) rest counted after) :
    Entered everything known summary archive ((input, .ok outcome) :: rest) counted after where
  files := later.files
  failed := later.failed
  updated := by
    rw [List.countP_cons_of_pos entered, later.updated]
    exact Nat.add_right_comm ..
  total := by
    have total := later.total
    simp only [List.length_cons] at total ⊢
    omega
  entry := by
    intro other found member isNew
    rcases List.mem_cons.mp member with same | listed
    · obtain ⟨rfl, given⟩ := Prod.mk.inj same
      cases given
      rw [later.kept other.file fun done member same => absurd same (new done member),
        Archive.withSnapshot, named]
      exact Dictionary.get?_insert_self ..
    · exact later.entry other found listed isNew
  kept := by
    intro file left
    have different : file ≠ outcome.version.file := by
      rintro rfl
      have none := left _ List.mem_cons_self named.symm
      rw [entered] at none
      cases none
    rw [later.kept file fun done member => left done (List.mem_cons_of_mem _ member)]
    exact Dictionary.get?_insert_of_ne _ different _

end Entered

theorem save_eq_ok {archive next : Archive} {version : Version} {text : String}
    (saved : archive.save version text = .ok next) :
    next = archive.withSnapshot ⟨version, text⟩ := by
  unfold Archive.save at saved
  split at saved
  · cases saved
  · exact (Except.ok.inj saved).symm

theorem entered_of_enter {everything : Bool} {known : List (String × String)} {summary : Summary}
    {archive : Archive} {results : List (SourceInput × Except Error Outcome)}
    {counted : Summary} {after : Archive}
    (done : enter everything known summary archive results = (.ok counted, after))
    (distinct : (results.map fun done => done.1.file).Nodup)
    (named : ∀ input outcome, (input, .ok outcome) ∈ results → outcome.version.file = input.file) :
    Entered everything known summary archive results counted after := by
  induction results generalizing summary archive with
  | nil =>
    cases done
    exact ⟨rfl, (List.append_nil _).symm, rfl, rfl,
      fun _ _ member => absurd member List.not_mem_nil, fun _ _ => rfl⟩
  | cons first rest inductionHypothesis =>
    obtain ⟨input, result⟩ := first
    rw [List.map_cons, List.nodup_cons] at distinct
    have namedRest : ∀ input outcome, (input, .ok outcome) ∈ rest →
        outcome.version.file = input.file :=
      fun input outcome member => named input outcome (List.mem_cons_of_mem _ member)
    cases result with
    | error error => exact (inductionHypothesis done distinct.2 namedRest).failed_cons
    | ok outcome =>
      rw [enter] at done
      simp only at done
      split at done
      next entered =>
        cases saved : archive.save outcome.version input.text with
        | error failure =>
          rw [saved] at done
          cases done
        | ok next =>
          rw [saved, save_eq_ok saved] at done
          exact (inductionHypothesis done distinct.2 namedRest).entered_cons entered
            (named input outcome List.mem_cons_self)
            fun done member same => distinct.1 (same ▸ List.mem_map_of_mem member)
      next left =>
        exact (inductionHypothesis done distinct.2 namedRest).left_cons
          (Bool.eq_false_iff.mpr left)

/-- Where nothing is entered, the archive stays as it is. -/
theorem enter_left {everything : Bool} {known : List (String × String)} (archive : Archive)
    {results : List (SourceInput × Except Error Outcome)}
    (left : ∀ done ∈ results, isEntered everything known done = false) (summary : Summary) :
    ∃ counted, enter everything known summary archive results = (.ok counted, archive) := by
  induction results generalizing summary with
  | nil => exact ⟨summary, rfl⟩
  | cons first rest inductionHypothesis =>
    have later := inductionHypothesis fun done member => left done (List.mem_cons_of_mem _ member)
    obtain ⟨input, result⟩ := first
    cases result with
    | error error => exact later _
    | ok outcome =>
      have notNew := left _ List.mem_cons_self
      rw [isEntered] at notNew
      rw [enter]
      simp only [notNew]
      exact later _

/-! ### A run -/

theorem get?_prune (present : List String) (archive : Archive) (file : String) :
    (prune present archive).files.get? file =
      if file ∈ present then archive.files.get? file else none := by
  have chosen := Dictionary.get?_filter (fun file => present.contains file) archive.files file
  simp only [List.contains_iff_mem] at chosen
  exact chosen

/-- Files to be indexed are listed once, and with their own texts. -/
structure Listed (files : List (String × Option SourceInput)) : Prop where
  distinct : (files.map Prod.fst).Nodup
  named : ∀ file input, (file, some input) ∈ files → input.file = file

namespace Listed

variable {files : List (String × Option SourceInput)}

theorem mem_inputs (listed : Listed files) {input : SourceInput} :
    input ∈ files.filterMap Prod.snd ↔ (input.file, some input) ∈ files := by
  rw [List.mem_filterMap]
  constructor
  · rintro ⟨⟨file, _⟩, member, rfl⟩
    rw [listed.named file input member]
    exact member
  · intro member
    exact ⟨_, member, rfl⟩

theorem input_of_mem (listed : Listed files) (allRead : ∀ file, (file, none) ∉ files)
    {file : String} (member : file ∈ files.map Prod.fst) :
    ∃ input ∈ files.filterMap Prod.snd, input.file = file := by
  obtain ⟨⟨_, read⟩, there, rfl⟩ := List.mem_map.mp member
  cases read with
  | none => exact absurd there (allRead _)
  | some input =>
    exact ⟨input, List.mem_filterMap.mpr ⟨_, there, rfl⟩, listed.named _ input there⟩

theorem tail {first : String × Option SourceInput} (listed : Listed (first :: files)) :
    Listed files :=
  ⟨(List.nodup_cons.mp listed.distinct).2,
    fun file input member => listed.named file input (List.mem_cons_of_mem _ member)⟩

theorem inputs (listed : Listed files) :
    ((files.filterMap Prod.snd).map SourceInput.file).Nodup := by
  induction files with
  | nil => exact List.nodup_nil
  | cons first rest inductionHypothesis =>
    have later := inductionHypothesis listed.tail
    obtain ⟨file, read⟩ := first
    cases read with
    | none => exact later
    | some input =>
      refine List.nodup_cons.mpr ⟨fun repeated => ?_, later⟩
      obtain ⟨other, member, same⟩ := List.mem_map.mp repeated
      have again := List.mem_map_of_mem (f := Prod.fst) (listed.tail.mem_inputs.mp member)
      rw [same, listed.named file input List.mem_cons_self] at again
      exact (List.nodup_cons.mp listed.distinct).1 again

theorem length_eq (files : List (String × Option SourceInput)) :
    (files.filter (·.2.isNone)).length + (files.filterMap Prod.snd).length = files.length := by
  induction files with
  | nil => rfl
  | cons first rest inductionHypothesis =>
    obtain ⟨file, read⟩ := first
    cases read with
    | none => exact (Nat.add_right_comm ..).trans (congrArg Nat.succ inductionHypothesis)
    | some input => exact congrArg Nat.succ inductionHypothesis

end Listed

/-- What is asked of the engine. -/
def request (everything : Bool) : Request :=
  if everything then .full else .auto

/-- The texts that could be read, with the answers of the engine. -/
def results (engine : Engine) (everything : Bool) (store : Store)
    (files : List (String × Option SourceInput)) : List (SourceInput × Except Error Outcome) :=
  let inputs := files.filterMap Prod.snd
  inputs.zip (engine.performAll (request everything)
    (knownDigests (inputs.map SourceInput.file) store).2 inputs).1

/-- Whether a version is entered: it is if everything is, or if its text was not known. -/
def IsNew (everything : Bool) (store : Store) (input : SourceInput) (version : Version) : Prop :=
  everything = true ∨
    ((store.peek? input.file).map fun snapshot => snapshot.version.textHash) ≠
      some version.textHash

theorem not_isNew_iff {everything : Bool} {store : Store} {input : SourceInput}
    {version : Version} : ¬ IsNew everything store input version ↔
      everything = false ∧ ∃ stored, store.peek? input.file = some stored ∧
        stored.version.textHash = version.textHash := by
  rw [IsNew, not_or, not_not, Bool.not_eq_true, Option.map_eq_some_iff]

section results

variable {engine : Engine} {everything : Bool} {store : Store}
  {files : List (String × Option SourceInput)}

variable (engine everything store files) in
theorem map_fst_results :
    (results engine everything store files).map Prod.fst = files.filterMap Prod.snd :=
  List.map_fst_zip (Engine.length_performAll ..).ge

theorem mem_inputs_of_mem_results {done : SourceInput × Except Error Outcome}
    (member : done ∈ results engine everything store files) :
    done.1 ∈ files.filterMap Prod.snd := by
  rw [← map_fst_results engine everything store files]
  exact List.mem_map_of_mem member

variable (engine everything store) in
theorem exists_result {input : SourceInput} (member : input ∈ files.filterMap Prod.snd) :
    ∃ result, (input, result) ∈ results engine everything store files := by
  rw [← map_fst_results engine everything store files] at member
  obtain ⟨⟨_, result⟩, done, rfl⟩ := List.mem_map.mp member
  exact ⟨result, done⟩

theorem distinct_results (listed : Listed files) :
    ((results engine everything store files).map fun done => done.1.file).Nodup := by
  have distinct := listed.inputs
  rw [← map_fst_results engine everything store files, List.map_map] at distinct
  exact distinct

/-- A file is answered from the snapshot that it had, unless it was dropped before its turn. -/
theorem results_answers (listed : Listed files) {input : SourceInput}
    {result : Except Error Outcome}
    (member : (input, result) ∈ results engine everything store files) :
    ∃ prior, (prior = store.peek? input.file ∨ prior = none) ∧
      result = engine.answer input.file prior (input.call (request everything)) ∧
      (overflows engine everything store files = false →
        engine.Fits input.file prior (input.call (request everything))) := by
  obtain ⟨prior, known, answered⟩ := engine.performAll_answers _ listed.inputs member
  rw [(knownDigests_store _ store).1] at known
  exact ⟨prior, known, answered⟩

theorem belongs_results (listed : Listed files) (belongs : store.All Snapshot.Belongs)
    {input : SourceInput} {outcome : Outcome}
    (member : (input, .ok outcome) ∈ results engine everything store files) :
    Snapshot.Belongs input.file ⟨outcome.version, input.text⟩ ∧
      outcome.version.language = input.language := by
  obtain ⟨prior, known, answered, _⟩ := results_answers listed member
  refine Engine.belongs_answer answered.symm fun snapshot there => ?_
  rcases known with rfl | rfl
  · exact belongs input.file snapshot there
  · cases there

end results

/-- What becomes of the archive when files are indexed. -/
structure Ran (everything : Bool) (store : Store) (before saved : Archive)
    (files : List (String × Option SourceInput))
    (results : List (SourceInput × Except Error Outcome)) (summary : Summary) : Prop where
  counted : summary.files = files.length
  total : summary.files = summary.updated + summary.unchanged + summary.failed.length
  failed : ∀ file, file ∈ summary.failed ↔ (file, none) ∈ files ∨
    ∃ input error, (input, .error error) ∈ results ∧ input.file = file
  gone : ∀ file, file ∉ files.map Prod.fst → saved.files.get? file = none
  failedKept : ∀ file ∈ summary.failed, saved.files.get? file = before.files.get? file
  entered : ∀ input outcome, (input, .ok outcome) ∈ results →
    IsNew everything store input outcome.version →
      saved.files.get? input.file = some (Archive.entry ⟨outcome.version, input.text⟩)
  left : ∀ input outcome, (input, .ok outcome) ∈ results →
    ¬ IsNew everything store input outcome.version →
      saved.files.get? input.file = before.files.get? input.file
  nothingUpdated : summary.updated = 0 ↔ ∀ input outcome, (input, .ok outcome) ∈ results →
    ¬ IsNew everything store input outcome.version
  nothingRemoved : (∀ file ∈ before.list, file ∈ files.map Prod.fst) → summary.removed = 0

section run

variable {engine : Engine} {everything : Bool} {store : Store} {before after : Archive}
  {files : List (String × Option SourceInput)} {counted : Summary}

/-- The digests that are known for the files that could be read. -/
def digests (store : Store) (files : List (String × Option SourceInput)) : List (String × String) :=
  (knownDigests ((files.filterMap Prod.snd).map SourceInput.file) store).1

theorem isEntered_iff {input : SourceInput} {outcome : Outcome}
    (member : (input, .ok outcome) ∈ results engine everything store files) :
    isEntered everything (digests store files) (input, .ok outcome) = true ↔
      IsNew everything store input outcome.version := by
  have read := List.mem_map_of_mem (f := SourceInput.file) (mem_inputs_of_mem_results member)
  rw [isEntered, digests, lookup_knownDigests, if_pos read, Bool.or_eq_true, bne_iff_ne]
  rfl

theorem mem_present (listed : Listed files) {done : SourceInput × Except Error Outcome}
    (member : done ∈ results engine everything store files) :
    done.1.file ∈ files.map Prod.fst :=
  List.mem_map_of_mem (f := Prod.fst) (listed.mem_inputs.mp (mem_inputs_of_mem_results member))

/-- A result that is not entered leaves the archive as it is for its file. -/
theorem Entered.kept_of_not_entered (listed : Listed files) {summary : Summary}
    (entered : Entered everything (digests store files) summary before
      (results engine everything store files) counted after)
    {done : SourceInput × Except Error Outcome}
    (member : done ∈ results engine everything store files)
    (left : isEntered everything (digests store files) done = false) :
    after.files.get? done.1.file = before.files.get? done.1.file := by
  refine entered.kept _ fun other listedToo same => ?_
  rw [List.inj_on_of_nodup_map (distinct_results listed) listedToo member same]
  exact left

/-- The files that failed are those that could not be read and those that could not be divided. -/
theorem mem_failed (files : List (String × Option SourceInput))
    (results : List (SourceInput × Except Error Outcome)) (file : String) :
    file ∈ (files.filter (·.2.isNone)).map Prod.fst ++
        (results.filter isFailed).map (fun done => done.1.file) ↔
      (file, none) ∈ files ∨
        ∃ input error, (input, .error error) ∈ results ∧ input.file = file := by
  simp only [List.mem_append, List.mem_map, List.mem_filter]
  refine or_congr ⟨?_, fun member => ⟨_, ⟨member, rfl⟩, rfl⟩⟩ ⟨?_, ?_⟩
  · rintro ⟨⟨file, _ | input⟩, ⟨member, unread⟩, rfl⟩
    · exact member
    · cases unread
  · rintro ⟨⟨input, _ | outcome⟩, ⟨member, failed⟩, rfl⟩
    · exact ⟨input, _, member, rfl⟩
    · cases failed
  · rintro ⟨input, error, member, rfl⟩
    exact ⟨_, ⟨member, rfl⟩, rfl⟩

variable (before) in
/-- A run in which nothing is entered does no more than to drop files that are not selected. -/
theorem run_of_left (time : String)
    (left : ∀ done ∈ results engine everything store files,
      isEntered everything (digests store files) done = false) :
    ∃ summary, run engine everything time store before files =
      (.ok summary, (prune (files.map Prod.fst) before).markIndexed time) := by
  obtain ⟨counted, entered⟩ := enter_left before left
    { files := files.length, failed := (files.filter (·.2.isNone)).map Prod.fst }
  unfold results request digests at entered
  refine ⟨{ counted with
    removed := before.list.countP fun file => !(files.map Prod.fst).contains file }, ?_⟩
  unfold run
  simp only [entered]

end run

theorem ran_of_run {engine : Engine} {everything : Bool} {time : String} {store : Store}
    {before saved : Archive} {files : List (String × Option SourceInput)} {summary : Summary}
    (listed : Listed files) (belongs : store.All Snapshot.Belongs)
    (done : run engine everything time store before files = (.ok summary, saved)) :
    Ran everything store before saved files (results engine everything store files) summary := by
  unfold run at done
  simp only at done
  split at done
  · cases done
  next counted after finished =>
    cases done
    have entered : Entered everything (digests store files) _ before
        (results engine everything store files) counted after :=
      entered_of_enter finished (distinct_results listed) fun input outcome member =>
        (belongs_results listed belongs member).1.file
    have size : (results engine everything store files).length =
        (files.filterMap Prod.snd).length := by
      rw [← map_fst_results engine everything store files, List.length_map]
    have pruned : ∀ file ∈ files.map Prod.fst,
        ((prune (files.map Prod.fst) after).markIndexed time).files.get? file =
          after.files.get? file :=
      fun file present => (get?_prune _ after file).trans (if_pos present)
    have failed : ∀ file, file ∈ counted.failed ↔ (file, none) ∈ files ∨
        ∃ input error, (input, .error error) ∈ results engine everything store files ∧
          input.file = file := by
      intro file
      rw [entered.failed]
      exact mem_failed files _ file
    refine ⟨entered.files, ?_, failed, ?_, ?_, ?_, ?_, ?_, ?_⟩
    · have total := entered.total
      have length := Listed.length_eq files
      simp only [List.length_map] at total
      have counts : counted.files = files.length := entered.files
      change counted.files = counted.updated + counted.unchanged + counted.failed.length
      omega
    · intro file absent
      exact (get?_prune _ after file).trans (if_neg absent)
    · intro file isFailed
      rcases (failed file).mp isFailed with unread | ⟨input, error, member, rfl⟩
      · rw [pruned file (List.mem_map_of_mem (f := Prod.fst) unread)]
        -- A file that could not be read is not among those that the engine was asked for.
        refine entered.kept file fun done member same => ?_
        have read := listed.mem_inputs.mp (mem_inputs_of_mem_results member)
        cases congrArg Prod.snd (List.inj_on_of_nodup_map listed.distinct read unread same)
      · rw [pruned _ (mem_present listed member)]
        exact entered.kept_of_not_entered listed member rfl
    · intro input outcome member new
      rw [pruned _ (mem_present listed member)]
      exact entered.entry input outcome member ((isEntered_iff member).mpr new)
    · intro input outcome member old
      rw [pruned _ (mem_present listed member)]
      exact entered.kept_of_not_entered listed member
        (Bool.eq_false_iff.mpr fun new => old ((isEntered_iff member).mp new))
    · change counted.updated = 0 ↔ _
      rw [entered.updated, Nat.zero_add, List.countP_eq_zero]
      constructor
      · intro none input outcome member new
        exact none _ member ((isEntered_iff member).mpr new)
      · intro none done member new
        obtain ⟨input, result⟩ := done
        cases result with
        | error error => cases new
        | ok outcome => exact none input outcome member ((isEntered_iff member).mp new)
    · intro allPresent
      refine List.countP_eq_zero.mpr fun file there absent => ?_
      have absent : file ∉ files.map Prod.fst := by simpa using absent
      have kept := entered.kept file fun done member same =>
        absurd (same ▸ mem_present listed member) absent
      refine absent (allPresent file ?_)
      rw [Archive.list, Dictionary.mem_keys] at there ⊢
      rw [← kept]
      exact there

end Index

end Chunking
