/-
Following a text from edit to edit is as good as parsing it anew. A version shows
what the processor finds in its text: by what its drafts come to, ids apart, and by
its outline. A parse of the whole text makes such a version at once; a parse of
windows makes one out of the version before, because what stays and what the
windows bring is what the processor finds in the new text. So whatever edits led
to a text, the version of the text is that of a first parse, except for the ids.
-/

import Chunking.Proofs.Contents
import Chunking.Proofs.Defects

namespace Chunking

/-! ### Versions that say the same -/

namespace Version

/-- Two versions say the same of a text, except for their ids. Whether something was passed over in an
empty text is not always asked, and an outline with repetitions may be in another order. -/
structure Agrees (text : String) (version other : Version) : Prop where
  file : version.file = other.file
  language : version.language = other.language
  textHash : version.textHash = other.textHash
  lineCount : version.lineCount = other.lineCount
  chunks : version.chunks.map Chunk.withoutId = other.chunks.map Chunk.withoutId
  outline : ∀ node, node ∈ version.outline ↔ node ∈ other.outline
  outlineEq : other.outline.Pairwise Span.Precedes → version.outline = other.outline
  recovered : text ≠ "" → version.recovered = other.recovered

end Version

namespace Processor

/-- What is known to be in a text: what the processor finds there, and nothing if it is empty. -/
def Gives (processor : Processor) (text : String) (extraction : Extraction) : Prop :=
  processor.process text .file = .ok extraction ∨ (text = "" ∧ extraction = ⟨[], false, []⟩)

variable {processor : Processor} {text : String} {extraction : Extraction}

theorem Gives.finds (gives : processor.Gives text extraction) (clean : extraction.recovered = false) :
    processor.Finds text extraction.Has := by
  rcases gives with processed | ⟨rfl, rfl⟩
  · exact Or.inr ⟨extraction, ⟨processed, clean⟩, fun _ => Iff.rfl⟩
  · refine .of_empty fun item => ?_
    cases item <;> exact List.not_mem_nil

theorem Gives.row (gives : processor.Gives text extraction) (tidy : processor.Tidy) :
    extraction.drafts.Pairwise fun left right => left.span.Before right.span := by
  rcases gives with processed | ⟨_, rfl⟩
  · exact (tidy processed).2
  · exact .nil

theorem Finds.gives {items : Item → Prop} (finds : processor.Finds text items) :
    ∃ extraction, processor.Gives text extraction ∧ extraction.recovered = false ∧
      ∀ item, extraction.Has item ↔ items item := by
  rcases finds with ⟨empty, none⟩ | ⟨extraction, clean, has⟩
  · refine ⟨_, Or.inr ⟨empty, rfl⟩, rfl, fun item => ⟨fun member => ?_, fun found => ?_⟩⟩
    · cases item <;> exact absurd member List.not_mem_nil
    · exact absurd found (none item)
  · exact ⟨extraction, Or.inl clean.1, clean.2, has⟩

/-- In an empty text there is nothing to find. -/
theorem Compositional.eq_nil_of_empty (compositional : processor.Compositional)
    (processed : processor.process "" .file = .ok extraction) :
    extraction.drafts = [] ∧ extraction.outline = [] := by
  have none (item : Item) : ¬ extraction.Has item := by
    intro has
    obtain ⟨positive, proper, inside⟩ := compositional.fits processed has
    have size : (LineIndex.ofText "").size = 0 := rfl
    omega
  exact ⟨List.eq_nil_iff_forall_not_mem.mpr fun draft => none (.ofDraft draft),
    List.eq_nil_iff_forall_not_mem.mpr fun node => none (.ofNode node)⟩

end Processor

/-- Nodes in strict order are determined by which ones there are. -/
theorem Span.eq_of_precedes {first second : List Span} (left : first.Pairwise Precedes)
    (right : second.Pairwise Precedes) (same : ∀ node, node ∈ first ↔ node ∈ second) :
    first = second := by
  have permutation : first.Perm second :=
    (List.perm_ext_iff_of_nodup (left.imp And.right) (right.imp And.right)).mpr same
  refine permutation.eq_of_pairwise ?_ left right
  intro node other _ _ before behind
  exact Span.inOrder_antisymm node other before.1 behind.1

/-- A version that shows what is in a text agrees with one that shows it just as it was found. -/
theorem Version.Shows.agrees {processor : Processor} (compositional : processor.Compositional)
    {text : String} {version other : Version} {extraction found : Extraction}
    (shows : version.Shows text extraction) (gives : processor.Gives text extraction)
    (otherShows : other.Shows text found) (processed : processor.process text .file = .ok found)
    (whole : other.outline = found.outline) (files : version.file = other.file)
    (languages : version.language = other.language) : version.Agrees text other := by
  have agree (drafts : extraction.drafts = found.drafts) (nodes : extraction.outline = found.outline)
      (recovered : text ≠ "" → extraction.recovered = found.recovered) :
      version.Agrees text other := by
    have members : ∀ node, node ∈ version.outline ↔ node ∈ other.outline := by
      intro node
      rw [shows.outline, otherShows.outline, nodes]
    refine ⟨files, languages, shows.textHash.trans otherShows.textHash.symm,
      shows.lineCount.trans otherShows.lineCount.symm, ?_, members, fun strict => ?_, fun some => ?_⟩
    · rw [shows.chunks, otherShows.chunks, drafts, languages]
    · rcases shows.ordered with same | ordered
      · rw [same, nodes, whole]
      · exact Span.eq_of_precedes ordered strict members
    · rw [shows.recovered, otherShows.recovered, recovered some]
  rcases gives with processed' | ⟨rfl, rfl⟩
  · cases processed'.symm.trans processed
    exact agree rfl rfl fun _ => rfl
  · obtain ⟨drafts, nodes⟩ := compositional.eq_nil_of_empty processed
    exact agree drafts.symm nodes.symm fun some => absurd rfl some

/-! ### Answers -/

namespace Engine

variable {engine : Engine} {job : Job}

theorem shows_windows {snapshot : Snapshot} {changes : List LineChange} {resolution : Resolution}
    {windows : List LineRange} {swallowed : List Chunk} {found : WindowFindings}
    {extraction : Extraction} (compositional : job.processor.Compositional)
    (gives : job.processor.Gives snapshot.text extraction)
    (shows : snapshot.version.Shows snapshot.text extraction)
    (sameLanguage : snapshot.version.language = job.language)
    (clean : snapshot.version.recovered = false)
    (script : IsEditScript changes snapshot.text job.text)
    (oldSmall : (LineIndex.ofText snapshot.text).size < Word.signedLimit)
    (newSmall : job.index.size < Word.signedLimit)
    (windowed : Resolution.Windowed job.processor.isBoundary snapshot.version changes job.index
      windows swallowed resolution)
    (foundIn : FoundIn job windows found) :
    ∃ new, job.processor.Gives job.text new ∧
      (job.version (engine.windowMerge job snapshot.version changes resolution found)
        (carryOutline snapshot.version.outline changes windows found.outline) false).Shows job.text
          new := by
  have splice : Splice job.processor extraction.Has snapshot.version changes snapshot.text job.text
      windows swallowed resolution :=
    { compositional, script, oldSmall, newSmall, windowed
      processed := foundIn.processed
      finds := gives.finds (shows.recovered.symm.trans clean)
      outline := fun node has => (shows.outline node).mpr has
      lineCount := shows.lineCount }
  obtain ⟨new, newGives, newClean, has⟩ := splice.finds_new.gives
  have contents := shows.chunks
  rw [sameLanguage] at contents
  refine ⟨new, newGives, rfl, rfl, newClean.symm, ?_, fun node => ?_, Or.inr carryOutline_strict⟩
  · exact engine.map_withoutId_windowMerge splice (fun _ => Iff.rfl) contents foundIn
      (gives.row compositional.tidy) (fun draft => has (.ofDraft draft))
      (newGives.row compositional.tidy)
  · exact (mem_carryOutline_iff foundIn fun node => (shows.outline node).symm).trans
      (has (.ofNode node)).symm

/-- A version of a file shows what is in its text. -/
def Describes (processor : Processor) (file text : String) (version : Version) : Prop :=
  version.file = file ∧ ∃ extraction, processor.Gives text extraction ∧ version.Shows text extraction

/-- What an answer gives out shows what is in the text, if the snapshot did. -/
theorem Answered.describes {prior : Option Snapshot} {outcome : Outcome}
    (answered : Answered engine job prior (.ok outcome))
    (compositional : job.processor.Compositional)
    (described : ∀ snapshot ∈ prior, snapshot.version.language = job.language →
      Describes job.processor job.file snapshot.text snapshot.version)
    (newSmall : job.index.size < Word.signedLimit)
    (small : ∀ snapshot ∈ prior, (LineIndex.ofText snapshot.text).size < Word.signedLimit)
    (scripts : ∀ snapshot ∈ prior, ∀ changes,
      engine.detect snapshot.text job.text = .ok changes →
        IsEditScript changes snapshot.text job.text) :
    Describes job.processor job.file job.text outcome.version := by
  generalize given : Except.ok outcome = result at answered
  cases answered with
  | @unchanged snapshot known sameLanguage sameText =>
    cases given
    exact sameText ▸ described snapshot known sameLanguage
  | refused => cases given
  | @full extraction changes reason processed =>
    rw [Job.checked_eq_ok given.symm]
    exact ⟨rfl, extraction, Or.inl processed, shows_full _ changes compositional.tidy processed⟩
  | @windows snapshot changes resolution windows swallowed found known sameLanguage clean detected
      windowed foundIn =>
    rw [Job.checked_eq_ok given.symm]
    obtain ⟨_, extraction, gives, shows⟩ := described snapshot known sameLanguage
    exact ⟨rfl, shows_windows compositional gives shows sameLanguage clean
      (scripts snapshot known changes detected) (small snapshot known) newSmall windowed foundIn⟩

/-! ### First parses -/

/-- The answer to a call of an engine that knows nothing yet. -/
def fresh (engine : Engine) (file : String) (call : Call) : Except Error Outcome :=
  (engine.perform .full {} ⟨file, call.text, call.language⟩).1

theorem fresh_eq (engine : Engine) (file : String) (call : Call) :
    engine.fresh file call = engine.answer file none ⟨.full, call.text, call.language⟩ :=
  (engine.perform_eq file {} ⟨.full, call.text, call.language⟩).1

theorem answered_fresh (file : String) {call : Call} {processor : Processor}
    (registered : engine.registry call.language = some processor) :
    Answered engine ⟨file, call.text, call.language, processor⟩ none (engine.fresh file call) := by
  rw [fresh_eq, answer, registered]
  exact engine.answered_build _ _ _

/-! ### Runs -/

/-- The snapshot shows what is in its text, which is that of a call. -/
def Followed (engine : Engine) (file : String) (calls : List Call) (prior : Option Snapshot) : Prop :=
  (∀ snapshot ∈ prior, ∀ processor,
    engine.registry snapshot.version.language = some processor →
      Describes processor file snapshot.text snapshot.version) ∧
    FromCalls calls prior

section runs

variable {file : String} {calls : List Call}
  (compositional : ∀ call ∈ calls, ∀ processor, engine.registry call.language = some processor →
    processor.Compositional)
  (small : ∀ call ∈ calls, (LineIndex.ofText call.text).size < Word.signedLimit)
  (scripts : ∀ call ∈ calls, ∀ later ∈ calls, ∀ changes,
    engine.detect call.text later.text = .ok changes → IsEditScript changes call.text later.text)
  {prior : Option Snapshot} {call : Call}

include compositional small scripts

theorem Followed.answer (followed : Followed engine file calls prior) (member : call ∈ calls)
    {outcome : Outcome} (given : engine.answer file prior call = .ok outcome) :
    ∃ processor, engine.registry call.language = some processor ∧
      outcome.version.language = call.language ∧
      Describes processor file call.text outcome.version := by
  obtain ⟨described, listed⟩ := followed
  rcases engine.answer_cases file prior call with ⟨_, failed⟩ | ⟨processor, registered, answered⟩
  · cases failed.symm.trans given
  · rw [given] at answered
    refine ⟨processor, registered, answered.version_of_ok.1, ?_⟩
    refine answered.describes (compositional call member _ registered)
      (fun snapshot known sameLanguage => ?_)
      (small call member) (listed.small small) (listed.scripts member scripts)
    exact described snapshot known processor (sameLanguage ▸ registered)

/-- A version agrees with a first parse of its text. -/
theorem Followed.agrees (followed : Followed engine file calls prior) (member : call ∈ calls)
    {outcome fresh : Outcome} (given : engine.answer file prior call = .ok outcome)
    (first : engine.fresh file call = .ok fresh) :
    outcome.version.Agrees call.text fresh.version := by
  obtain ⟨processor, registered, inLanguage, inFile, extraction, gives, shows⟩ :=
    followed.answer compositional small scripts member given
  have answered : Answered engine ⟨file, call.text, call.language, processor⟩ none (.ok fresh) :=
    first ▸ answered_fresh file registered
  obtain ⟨found, processed, freshShows, whole, freshFile, freshLanguage⟩ :=
    answered.shows_fresh (compositional call member _ registered).tidy
  exact shows.agrees (compositional call member _ registered) gives freshShows processed whole
    (inFile.trans freshFile.symm) (inLanguage.trans freshLanguage.symm)

/-- A version of a text that is not empty shows what the processor finds in it. -/
theorem Followed.shows (followed : Followed engine file calls prior) (member : call ∈ calls)
    {outcome : Outcome} (given : engine.answer file prior call = .ok outcome)
    (nonempty : call.text ≠ "") : ∃ processor extraction,
      engine.registry call.language = some processor ∧
      processor.process call.text .file = .ok extraction ∧
      outcome.version.Shows call.text extraction := by
  obtain ⟨processor, registered, _, _, extraction, gives, shows⟩ :=
    followed.answer compositional small scripts member given
  exact ⟨processor, extraction, registered, gives.resolve_right fun empty => nonempty empty.1, shows⟩

theorem Followed.remaining (followed : Followed engine file calls prior) (member : call ∈ calls) :
    Followed engine file calls (remaining prior call (engine.answer file prior call)) := by
  refine ⟨?_, followed.2.remaining member⟩
  cases given : engine.answer file prior call with
  | error error => exact followed.1
  | ok outcome =>
    obtain ⟨processor, registered, inLanguage, describes⟩ :=
      followed.answer compositional small scripts member given
    rw [← given, remaining_of_ok given]
    rintro snapshot ⟨⟩ other otherRegistered
    rw [inLanguage, registered] at otherRegistered
    cases otherRegistered
    exact describes

end runs

/-- Only the text itself can make a call fail: names do not look numbered, outlines are in order, and
where a part of a text or a comparison fails, the whole text can be tried. -/
structure Dependable (engine : Engine) : Prop where
  plain : ∀ language processor, engine.registry language = some processor →
    processor.Names fun _ name => ¬ ChunkId.Numbered name
  outlines : ∀ language processor, engine.registry language = some processor → processor.Outlines
  parts : ∀ language processor, engine.registry language = some processor → ∀ part error,
    processor.process part .window = .error error → error.isRecoverable = true
  comparisons : ∀ old new error, engine.detect old new = .error error → error.isRecoverable = true

/-- A call of a dependable engine has a result, or the processor fails on the whole text. -/
theorem Dependable.answered (dependable : engine.Dependable)
    (registered : engine.registry job.language = some job.processor) {prior : Option Snapshot}
    {result : Except Error Outcome} (answered : Answered engine job prior result)
    (sane : ∀ snapshot ∈ prior, Sane job.file (fun _ name => ¬ ChunkId.Numbered name) snapshot)
    (newSmall : job.index.size < Word.signedLimit)
    (small : ∀ snapshot ∈ prior, (LineIndex.ofText snapshot.text).size < Word.signedLimit)
    (scripts : ∀ snapshot ∈ prior, ∀ changes,
      engine.detect snapshot.text job.text = .ok changes →
        IsEditScript changes snapshot.text job.text) :
    (∃ outcome, result = .ok outcome) ∨
      ∃ error, job.processor.process job.text .file = .error error ∧
        result = .error (fullParseError job.file error) := by
  rcases answered.valid ChunkId.readable_of_not_numbered (dependable.plain _ _ registered)
    (dependable.outlines _ _ registered) sane newSmall small scripts with
    ⟨outcome, given, _⟩ | ⟨error, given, refused⟩
  · exact Or.inl ⟨outcome, given⟩
  · cases refused with
    | comparison _ failed fatal => cases fatal.symm.trans (dependable.comparisons _ _ _ failed)
    | window failed fatal => cases fatal.symm.trans (dependable.parts _ _ registered _ _ failed)
    | parse failed => exact Or.inr ⟨_, failed, given⟩

section failures

variable {file : String} {calls : List Call}
  (compositional : ∀ call ∈ calls, ∀ processor, engine.registry call.language = some processor →
    processor.Compositional)
  (small : ∀ call ∈ calls, (LineIndex.ofText call.text).size < Word.signedLimit)
  (scripts : ∀ call ∈ calls, ∀ later ∈ calls, ∀ changes,
    engine.detect call.text later.text = .ok changes → IsEditScript changes call.text later.text)
  {prior : Option Snapshot} {call : Call}

include compositional small scripts

/-- A call fails just as a first parse of its text does. -/
theorem Dependable.fails (dependable : engine.Dependable) (followed : Followed engine file calls prior)
    (sane : ∀ snapshot ∈ prior, Sane file (fun _ name => ¬ ChunkId.Numbered name) snapshot)
    (member : call ∈ calls) (nonempty : call.text ≠ "") (error : Error) :
    engine.answer file prior call = .error error ↔ engine.fresh file call = .error error := by
  rcases engine.answer_cases file prior call with ⟨unknown, failed⟩ | ⟨processor, registered, answered⟩
  · rw [failed, fresh_eq, answer, unknown]
  · have own := dependable.answered registered answered sane (small call member)
      (followed.2.small small) (followed.2.scripts member scripts)
    have answeredFresh := answered_fresh file registered
    have first := dependable.answered registered answeredFresh nofun (small call member) nofun nofun
    rcases first with ⟨fresh, freshGiven⟩ | ⟨_, freshFailed, freshGiven⟩
    · rw [freshGiven] at answeredFresh
      obtain ⟨extraction, processed, _⟩ :=
        answeredFresh.shows_fresh (compositional call member _ registered).tidy
      rcases own with ⟨outcome, given⟩ | ⟨_, failed, _⟩
      · rw [given, freshGiven]
        exact ⟨nofun, nofun⟩
      · cases failed.symm.trans processed
    · rcases own with ⟨outcome, given⟩ | ⟨_, failed, given⟩
      · obtain ⟨_, extraction, same, processed, _⟩ :=
          followed.shows compositional small scripts member given nonempty
        cases registered.symm.trans same
        cases freshFailed.symm.trans processed
      · cases failed.symm.trans freshFailed
        rw [given, freshGiven]

end failures

end Engine

end Chunking
