/-
What is found in the archive once files have been indexed, and what happens when
they are indexed again. A version that was entered is found as the engine returned
it; what was left alone is what had been kept, and where all files have room in the
store, the two differ just if the same text had been kept in another language.

When no file has failed, the archive is settled: it keeps a version of every selected
text and nothing else. If nothing changes, going through the files once more finds
every text known and leaves the archive as it is, as long as the store has room for
all files. If it has not, some files are dropped while the store is filled, and as
nothing is known of them any more, they are entered again.
-/

import Chunking.Proofs.Indexing

namespace Chunking

open Engine

/-! ### The same text again -/

namespace Engine

variable {engine : Engine} {file : String} {snapshot : Snapshot} {call : Call}

theorem answer_unchanged {processor : Processor}
    (registered : engine.registry call.language = some processor) (auto : call.request = .auto)
    (sameLanguage : snapshot.version.language = call.language)
    (sameText : snapshot.text = call.text) :
    engine.answer file (some snapshot) call = .ok (unchanged snapshot.version) := by
  rw [answer, registered, auto]
  simp only
  rw [build_result, plan_known sameLanguage sameText]
  rfl

/-- Whether a parse of the whole text succeeds does not depend on its reason. -/
theorem fullAnswer_ok (job : Job) {prior : Option Version} {changes : List LineChange}
    {reason : Escalation} {outcome : Outcome}
    (done : engine.fullAnswer job prior changes reason = .ok outcome) (other : Escalation) :
    ∃ again, engine.fullAnswer job prior changes other = .ok again := by
  rw [fullAnswer] at done ⊢
  cases processed : job.processor.process job.text .file with
  | error error =>
    rw [processed] at done
    cases done
  | ok extraction =>
    rw [processed] at done
    obtain ⟨_, valid⟩ := Job.checked_valid done
    exact ⟨_, Job.checked_eq_ok_iff.mpr ⟨valid.validate, rfl⟩⟩

theorem registered_of_answer {prior : Option Snapshot} {outcome : Outcome}
    (done : engine.answer file prior call = .ok outcome) :
    ∃ processor, engine.registry call.language = some processor := by
  rcases engine.answer_cases file prior call with ⟨_, failed⟩ | ⟨processor, registered, _⟩
  · rw [failed] at done
    cases done
  · exact ⟨processor, registered⟩

theorem input?_fullParse {job : Job} {request : Request} {prior : Option Snapshot}
    {version : Option Version} {changes : List LineChange} {reason : Escalation}
    (planned : (engine.plan Host.plain job request prior).result =
      (engine.fullParse Host.plain job version changes reason).result) :
    engine.input? job request prior = (job.processor.process job.text .file).toOption.map
      (engine.fullInput job version changes) := by
  rw [input?, planned, fullParse_result]
  cases job.processor.process job.text .file <;> rfl

theorem fits_unchanged (auto : call.request = .auto)
    (sameLanguage : snapshot.version.language = call.language)
    (sameText : snapshot.text = call.text) : engine.Fits file (some snapshot) call := by
  rw [Fits, callInput?]
  cases engine.registry call.language with
  | none => exact nofun
  | some processor =>
    rw [Option.bind_some, input?, auto, plan_known sameLanguage sameText]
    exact nofun

/-- What does not stop the program, whether or not there was a snapshot of the text, does not when
there is one. -/
theorem fits_again {prior : Option Snapshot} (fits : engine.Fits file prior call)
    (auto : call.request = .auto) (origin : prior = some snapshot ∨ prior = none)
    (sameText : snapshot.text = call.text) : engine.Fits file (some snapshot) call := by
  rcases origin with rfl | rfl
  · exact fits
  · by_cases sameLanguage : snapshot.version.language = call.language
    · exact fits_unchanged auto sameLanguage sameText
    · rw [Fits, callInput?] at fits ⊢
      cases registered : engine.registry call.language with
      | none => exact nofun
      | some processor =>
        rw [registered, Option.bind_some, input?_fullParse (plan_none ..)] at fits
        rw [Option.bind_some, input?_fullParse (plan_of_other_language sameLanguage _)]
        exact fits

/-- A text that could be divided, whether or not there was a snapshot of it, can be divided when
there is one. -/
theorem answer_again {prior : Option Snapshot} {outcome : Outcome}
    (done : engine.answer file prior call = .ok outcome) (auto : call.request = .auto)
    (origin : prior = some snapshot ∨ prior = none) (sameText : snapshot.text = call.text) :
    ∃ again, engine.answer file (some snapshot) call = .ok again := by
  obtain ⟨processor, registered⟩ := registered_of_answer done
  rcases origin with rfl | rfl
  · exact ⟨outcome, done⟩
  · by_cases sameLanguage : snapshot.version.language = call.language
    · exact ⟨_, answer_unchanged registered auto sameLanguage sameText⟩
    · rw [answer, registered] at done ⊢
      simp only at done ⊢
      rw [build_none] at done
      rw [build_of_other_language sameLanguage]
      exact fullAnswer_ok _ done _

end Engine

/-! ### What has been written -/

/-- The data form of a version can be written and is read as this version. -/
structure Version.Writable (version : Version) : Prop where
  sized : version.Sized
  finite : ∀ chunk ∈ version.chunks, chunk.confidence.isFinite = true
  legible : ∀ chunk ∈ version.chunks, chunk.Legible

theorem Snapshot.Belongs.snapshot_entry {file : String} {snapshot : Snapshot}
    (belongs : snapshot.Belongs file) (writable : snapshot.version.Writable) :
    (Archive.entry snapshot).snapshot = .ok snapshot := by
  have sound : snapshot.Sound file := ⟨belongs, writable.finite⟩
  unfold Archived.snapshot
  simp only [Archive.entry, sound.ofText?_toText writable.sized writable.legible]

namespace Index

section current

variable {engine : Engine} {everything : Bool} {store : Store} {before saved : Archive}
  {files : List (String × Option SourceInput)} {summary : Summary} {input : SourceInput}
  {outcome : Outcome}

/-- A version that is entered is what is found afterwards. -/
theorem Ran.load?_entered
    (ran : Ran everything store before saved files (results engine everything store files) summary)
    (member : (input, .ok outcome) ∈ results engine everything store files)
    (belongs : Snapshot.Belongs input.file ⟨outcome.version, input.text⟩)
    (writable : outcome.version.Writable) (new : IsNew everything store input outcome.version) :
    saved.load? input.file = .ok (some ⟨outcome.version, input.text⟩) := by
  have read := belongs.snapshot_entry writable
  unfold Archive.load?
  simp only [ran.entered input outcome member new, read]
  rfl

theorem Ran.load?_left
    (ran : Ran everything store before saved files (results engine everything store files) summary)
    (member : (input, .ok outcome) ∈ results engine everything store files)
    (old : ¬ IsNew everything store input outcome.version) :
    saved.load? input.file = before.load? input.file := by
  unfold Archive.load?
  rw [ran.left input outcome member old]

theorem Ran.load?_failed
    (ran : Ran everything store before saved files (results engine everything store files) summary)
    {file : String} (failed : file ∈ summary.failed) : saved.load? file = before.load? file := by
  unfold Archive.load?
  rw [ran.failedKept file failed]

/-- If no file failed, all of them could be read and divided. -/
theorem Ran.all_divided
    (ran : Ran everything store before saved files (results engine everything store files) summary)
    (noneFailed : summary.failed = []) :
    (∀ file, (file, none) ∉ files) ∧ ∀ input ∈ files.filterMap Prod.snd,
      ∃ outcome, (input, .ok outcome) ∈ results engine everything store files := by
  have failed := ran.failed
  simp only [noneFailed, List.not_mem_nil, false_iff, not_or] at failed
  refine ⟨fun file => (failed file).1, fun input member => ?_⟩
  obtain ⟨result, done⟩ := exists_result engine everything store member
  cases result with
  | error error => exact absurd ⟨input, error, done, rfl⟩ (failed input.file).2
  | ok outcome => exact ⟨outcome, done⟩

/-- Looking up digests leaves as much room as there was. -/
theorem roomy_knownDigests {names : List String} (roomy : store.Roomy names)
    (looked : List String) : (knownDigests looked store).2.Roomy names := by
  obtain ⟨peeked, capacity, size⟩ := knownDigests_store looked store
  intro limit limited
  rw [capacity] at limited
  simp only [size, peeked]
  exact roomy limit limited

/-- Where there is room for all files, each is answered from the snapshot that it had. -/
theorem results_roomy (listed : Listed files) {names : List String} (roomy : store.Roomy names)
    (among : ∀ input ∈ files.filterMap Prod.snd, input.file ∈ names)
    {result : Except Error Outcome}
    (member : (input, result) ∈ results engine everything store files) :
    result =
      engine.answer input.file (store.peek? input.file) (input.call (request everything)) := by
  have peeked := (knownDigests_store ((files.filterMap Prod.snd).map SourceInput.file) store).1
  unfold results at member
  simp only at member
  rw [engine.performAll_roomy _ (roomy_knownDigests roomy _) among listed.inputs] at member
  rw [← List.map_prod_left_eq_zip] at member
  obtain ⟨_, _, same⟩ := List.mem_map.mp member
  obtain ⟨rfl, rfl⟩ := Prod.mk.inj same
  rw [peeked]

/-- What is found afterwards is the version that the engine returned, unless the text was known and
another version of it had been kept. -/
theorem Ran.load?_iff (listed : Listed files) (belongs : store.All Snapshot.Belongs)
    (ran : Ran everything store before saved files (results engine everything store files) summary)
    (member : (input, .ok outcome) ∈ results engine everything store files)
    (writable : IsNew everything store input outcome.version → outcome.version.Writable) :
    saved.load? input.file = .ok (some ⟨outcome.version, input.text⟩) ↔
      IsNew everything store input outcome.version ∨
        before.load? input.file = .ok (some ⟨outcome.version, input.text⟩) := by
  have itself := (belongs_results listed belongs member).1
  by_cases new : IsNew everything store input outcome.version
  · exact iff_of_true (ran.load?_entered member itself (writable new) new) (Or.inl new)
  · rw [ran.load?_left member new, or_iff_right new]

/-- An archive stays orderly. -/
theorem Ran.orderly (listed : Listed files) (belongs : store.All Snapshot.Belongs)
    (ran : Ran everything store before saved files (results engine everything store files) summary)
    (writable : ∀ input outcome, (input, .ok outcome) ∈ results engine everything store files →
      IsNew everything store input outcome.version → outcome.version.Writable)
    (orderly : before.Orderly) : saved.Orderly := by
  intro file snapshot kept
  have ofFailed : file ∈ summary.failed → snapshot.version.file = file := fun failed =>
    orderly file snapshot ((ran.load?_failed failed).symm.trans kept)
  by_cases present : file ∈ files.map Prod.fst
  · obtain ⟨⟨_, read⟩, there, rfl⟩ := List.mem_map.mp present
    cases read with
    | none => exact ofFailed ((ran.failed _).mpr (Or.inl there))
    | some input =>
      obtain rfl : input.file = _ := listed.named _ input there
      obtain ⟨result, member⟩ :=
        exists_result engine everything store (listed.mem_inputs.mpr there)
      cases result with
      | error error => exact ofFailed ((ran.failed _).mpr (Or.inr ⟨input, error, member, rfl⟩))
      | ok outcome =>
        have itself := (belongs_results listed belongs member).1
        by_cases new : IsNew everything store input outcome.version
        · cases kept.symm.trans
            (ran.load?_entered member itself (writable input outcome member new) new)
          exact itself.file
        · exact orderly _ snapshot ((ran.load?_left member new).symm.trans kept)
  · have absent := Archive.mem_list_of_load? kept
    rw [Archive.list, Dictionary.mem_keys, ran.gone file present] at absent
    cases absent

/-- Where there is room for everything, that is the case unless a version in another language had
been kept. -/
theorem Ran.load?_iff_language {settings : Settings} (listed : Listed files)
    (orderly : before.Orderly) (filled : hydrated settings before = .ok store)
    (unlimited : settings.cacheCapacity = none)
    (ran : Ran everything store before saved files (results engine everything store files) summary)
    (member : (input, .ok outcome) ∈ results engine everything store files)
    (writable : IsNew everything store input outcome.version → outcome.version.Writable)
    (apart : ∀ stored ∈ store.peek? input.file,
      Digest.ofText stored.text = Digest.ofText input.text → stored.text = input.text) :
    saved.load? input.file = .ok (some ⟨outcome.version, input.text⟩) ↔
      everything = true ∨ ∀ stored ∈ store.peek? input.file, stored.text = input.text →
        stored.version.language = input.language := by
  have all := belongs_hydrated filled
  have origin := load?_hydrated orderly filled input.file
  obtain ⟨itself, language⟩ := belongs_results listed all member
  rw [ran.load?_iff listed all member writable]
  constructor
  · rintro (new | kept)
    · by_cases full : everything = true
      · exact Or.inl full
      · refine Or.inr fun stored known sameText => absurd new (not_isNew_iff.mpr ?_)
        refine ⟨Bool.eq_false_iff.mpr full, stored, known, ?_⟩
        rw [(all input.file stored known).digest, sameText, itself.digest]
    · refine Or.inr fun stored known _ => ?_
      have same := (origin stored known).symm.trans kept
      cases same
      exact language
  · rintro (full | sameLanguage)
    · exact Or.inl (Or.inl full)
    · by_cases new : IsNew everything store input outcome.version
      · exact Or.inl new
      · obtain ⟨rfl, stored, known, sameHash⟩ := not_isNew_iff.mp new
        have sameText : stored.text = input.text := by
          refine apart stored known ?_
          rw [← (all input.file stored known).digest, sameHash, itself.digest]
        have roomy : store.Roomy ((files.filterMap Prod.snd).map SourceInput.file) := by
          intro capacity limited
          rw [(keys_hydrated filled).1, unlimited] at limited
          cases limited
        have answered := results_roomy listed roomy (fun _ => List.mem_map_of_mem) member
        rw [known] at answered
        obtain ⟨processor, registered⟩ := registered_of_answer answered.symm
        cases answered.trans (answer_unchanged registered rfl (sameLanguage stored known sameText)
          sameText)
        rw [← sameText]
        exact Or.inr (origin stored known)

end current

/-! ### Settled archives -/

/-- An archive keeps a version of every text and nothing else, and all texts can be divided. -/
structure Settled (engine : Engine) (archive : Archive)
    (files : List (String × Option SourceInput)) : Prop where
  read : ∀ file, (file, none) ∉ files
  only : ∀ file ∈ archive.list, file ∈ files.map Prod.fst
  kept : ∀ input ∈ files.filterMap Prod.snd, ∃ snapshot,
    archive.load? input.file = .ok (some snapshot) ∧ snapshot.Belongs input.file ∧
      snapshot.version.textHash = Digest.ofText input.text ∧
      engine.Fits input.file (some snapshot) (input.call .auto) ∧
      ∃ outcome, engine.answer input.file (some snapshot) (input.call .auto) = .ok outcome

/-- An index run on which no file failed leaves a settled archive behind. -/
theorem settled_of_ran {settings : Settings} {engine : Engine} {store : Store}
    {before saved : Archive} {files : List (String × Option SourceInput)} {summary : Summary}
    (listed : Listed files) (orderly : before.Orderly)
    (filled : hydrated settings before = .ok store)
    (ran : Ran false store before saved files (results engine false store files) summary)
    (fits : overflows engine false store files = false) (noneFailed : summary.failed = [])
    (writable : ∀ input outcome, (input, .ok outcome) ∈ results engine false store files →
      IsNew false store input outcome.version → outcome.version.Writable)
    (apart : ∀ input ∈ files.filterMap Prod.snd, ∀ stored ∈ store.peek? input.file,
      Digest.ofText stored.text = Digest.ofText input.text → stored.text = input.text) :
    Settled engine saved files := by
  obtain ⟨read, divided⟩ := ran.all_divided noneFailed
  refine ⟨read, ?_, ?_⟩
  · intro file there
    by_contra absent
    rw [Archive.list, Dictionary.mem_keys, ran.gone file absent] at there
    cases there
  · intro input member
    obtain ⟨outcome, done⟩ := divided input member
    have belongs := belongs_results listed (belongs_hydrated filled) done
    obtain ⟨prior, origin, answered, fitsHere⟩ := results_answers listed done
    by_cases new : IsNew false store input outcome.version
    · obtain ⟨processor, registered⟩ := registered_of_answer answered.symm
      exact ⟨_, ran.load?_entered done belongs.1 (writable input outcome done new) new, belongs.1,
        belongs.1.digest, fits_unchanged rfl belongs.2 rfl,
        _, answer_unchanged registered rfl belongs.2 rfl⟩
    · obtain ⟨_, stored, known, sameHash⟩ := not_isNew_iff.mp new
      have itself := belongs_hydrated filled input.file stored known
      have hash := sameHash.trans belongs.1.digest
      have sameText := apart input member stored known (itself.digest.symm.trans hash)
      rw [known] at origin
      refine ⟨stored, ?_, itself, hash, fits_again (fitsHere fits) rfl origin sameText,
        answer_again answered.symm rfl origin sameText⟩
      rw [ran.load?_left done new]
      exact load?_hydrated orderly filled input.file stored known

namespace Settled

variable {settings : Settings} {engine : Engine} {archive : Archive} {store : Store}
  {files : List (String × Option SourceInput)}

/-- All that can be read from a settled archive belongs to the selected texts. -/
theorem belongs (settled : Settled engine archive files) (listed : Listed files) (file : String)
    (snapshot : Snapshot) (kept : archive.load? file = .ok (some snapshot)) :
    snapshot.Belongs file := by
  obtain ⟨archived, member, _⟩ := Archive.load?_eq_some_iff.mp kept
  obtain ⟨input, read, rfl⟩ :=
    listed.input_of_mem settled.read (settled.only file (List.mem_map_of_mem member))
  obtain ⟨stored, same, belongs, _⟩ := settled.kept input read
  rw [kept] at same
  cases same
  exact belongs

theorem orderly (settled : Settled engine archive files) (listed : Listed files) :
    archive.Orderly :=
  fun file snapshot kept => (settled.belongs listed file snapshot kept).file

theorem hydrated (settled : Settled engine archive files) (listed : Listed files)
    (settings : Settings) : ∃ store, Index.hydrated settings archive = .ok store := by
  obtain ⟨snapshots, loaded⟩ := @Archive.exists_loadAll archive fun file there => by
    obtain ⟨input, read, rfl⟩ := listed.input_of_mem settled.read (settled.only file there)
    obtain ⟨snapshot, kept, _⟩ := settled.kept input read
    exact ⟨snapshot, kept⟩
  unfold Index.hydrated
  rw [loaded]
  exact ⟨_, rfl⟩

/-- Every file that is kept takes part, so there are not more of them than files. -/
theorem length_list_le (settled : Settled engine archive files) :
    archive.list.length ≤ files.length := by
  have within :=
    (List.subperm_of_subset (Dictionary.nodup_keys archive.files) settled.only).length_le
  rw [List.length_map] at within
  exact within

theorem run_of_room (settled : Settled engine archive files) (listed : Listed files)
    (filled : Index.hydrated settings archive = .ok store)
    (room : ∀ capacity ∈ settings.cacheCapacity, files.length ≤ capacity) (time : String) :
    overflows engine false store files = false ∧
    ∃ summary again, run engine false time store archive files = (.ok summary, again) ∧
      summary.updated = 0 ∧ summary.removed = 0 ∧ summary.unchanged = summary.files ∧
      again.files = archive.files := by
  obtain ⟨known, roomy⟩ := hydrated_all (settled.orderly listed) (settled.belongs listed)
    (fun capacity limited => settled.length_list_le.trans (room capacity limited)) filled
  have among : ∀ input ∈ files.filterMap Prod.snd, input.file ∈ archive.list := by
    intro input read
    obtain ⟨snapshot, kept, _⟩ := settled.kept input read
    exact Archive.mem_list_of_load? kept
  have quiet : ∀ done ∈ results engine false store files,
      ∃ outcome, done.2 = .ok outcome ∧ ¬ IsNew false store done.1 outcome.version := by
    rintro ⟨input, result⟩ member
    obtain ⟨snapshot, kept, _, hash, _, outcome, answered⟩ :=
      settled.kept input (mem_inputs_of_mem_results member)
    have there := known input.file snapshot kept
    have given := results_roomy listed roomy among member
    rw [there] at given
    cases given.trans answered
    have belongs := belongs_results listed (belongs_hydrated filled) member
    exact ⟨outcome, rfl,
      not_isNew_iff.mpr ⟨rfl, snapshot, there, hash.trans belongs.1.digest.symm⟩⟩
  have left : ∀ done ∈ results engine false store files,
      isEntered false (digests store files) done = false := by
    rintro ⟨input, _⟩ member
    obtain ⟨outcome, rfl, old⟩ := quiet _ member
    exact Bool.eq_false_iff.mpr fun new => old ((isEntered_iff member).mp new)
  obtain ⟨summary, done⟩ := run_of_left archive time left
  have ran := ran_of_run listed (belongs_hydrated filled) done
  have updated : summary.updated = 0 := by
    refine ran.nothingUpdated.mpr fun input outcome member => ?_
    obtain ⟨_, same, old⟩ := quiet _ member
    cases same
    exact old
  have noneFailed : summary.failed = [] := by
    refine List.eq_nil_iff_forall_not_mem.mpr fun file failed => ?_
    rcases (ran.failed file).mp failed with unread | ⟨input, error, member, _⟩
    · exact settled.read file unread
    · obtain ⟨_, same, _⟩ := quiet _ member
      cases same
  have fits : overflows engine false store files = false := by
    refine engine.overflowsAny_roomy .auto (roomy_knownDigests roomy _) among listed.inputs
      fun input read => ?_
    obtain ⟨snapshot, kept, _, _, fits, _⟩ := settled.kept input read
    rw [(knownDigests_store _ store).1, known input.file snapshot kept]
    exact fits
  refine ⟨fits, summary, _, done, updated, ran.nothingRemoved settled.only, ?_, ?_⟩
  · have total := ran.total
    rw [updated, noneFailed, List.length_nil] at total
    omega
  · refine Dictionary.eq_of_entries (List.filter_eq_self.mpr fun entry member => ?_)
    exact List.contains_iff_mem.mpr (settled.only entry.1 (List.mem_map_of_mem member))

end Settled

/-- If nothing was entered and nothing failed, all files had room in the store. -/
theorem room_of_run {settings : Settings} {engine : Engine} {archive again : Archive}
    {store : Store} {files : List (String × Option SourceInput)} {summary : Summary} {time : String}
    (listed : Listed files) (filled : hydrated settings archive = .ok store)
    (valid : settings.cacheCapacity ≠ some 0)
    (done : run engine false time store archive files = (.ok summary, again))
    (updated : summary.updated = 0) (unchanged : summary.unchanged = summary.files) :
    ∀ capacity ∈ settings.cacheCapacity, files.length ≤ capacity := by
  intro capacity limited
  have ran := ran_of_run listed (belongs_hydrated filled) done
  have noneFailed : summary.failed = [] := by
    have total := ran.total
    rw [updated, unchanged] at total
    exact List.eq_nil_of_length_eq_zero (by omega)
  obtain ⟨allRead, divided⟩ := ran.all_divided noneFailed
  obtain ⟨_, keys, bounded⟩ := keys_hydrated filled
  have all : files.map Prod.fst ⊆ store.keys := by
    intro file member
    obtain ⟨input, read, rfl⟩ := listed.input_of_mem allRead member
    obtain ⟨outcome, done⟩ := divided input read
    have old := ran.nothingUpdated.mp updated input outcome done
    obtain ⟨_, stored, known, _⟩ := not_isNew_iff.mp old
    rw [keys, known]
    rfl
  have within := (List.subperm_of_subset listed.distinct all).length_le
  rw [List.length_map] at within
  have positive : capacity ≠ 0 := fun zero => valid (zero ▸ limited)
  have bound := bounded capacity limited
  omega

end Index

end Chunking
