/-
Names that get into each other's way. An id does not always tell the name it was
made from: a construct without a name is shown like one with the name that stands
in for it, and a name may end in what looks like the number of another one. As
long as no two names of one kind are related in this way, an id belongs to one
kind and name for good and no two chunks of a version share one. As soon as two
names are, there is a run in which an id passes from one of them to the other.
-/

import Chunking.Proofs.CallMerges
import Chunking.Proofs.CarriedNumbers
import Chunking.Proofs.Defects
import Chunking.Proofs.Numbering

namespace Chunking

/-! ### Names with ids of their own -/

namespace ChunkId

/-- A number that can be given out: the one behind it has to fit as well. -/
def Issuable (ordinal : Nat) : Prop :=
  ordinal + 1 < ordinalLimit

instance : DecidablePred Issuable :=
  fun ordinal => Nat.decLt (ordinal + 1) ordinalLimit

/-- No two names of a kind can have an id in common: they are not shown alike, and none is shown like
another one with a number that can be given out. -/
structure Apart (named : Kind → String → Prop) : Prop where
  shown : ∀ ⦃kind name name'⦄, named kind name → named kind name' →
    displayName name = displayName name' → name = name'
  unnumbered : ∀ ⦃kind name name'⦄, named kind name → named kind name' →
    ∀ ordinal ≠ 0, Issuable ordinal →
      displayName name ≠ displayName name' ++ "#" ++ toString ordinal

variable {named : Kind → String → Prop}

theorem Apart.inj (apart : Apart named) {file : String} {kind kind' : Kind} {name name' : String}
    {ordinal ordinal' : Nat} (proper : named kind name) (proper' : named kind' name')
    (issuable : Issuable ordinal) (issuable' : Issuable ordinal')
    (same : format file kind name ordinal = format file kind' name' ordinal') :
    kind = kind' ∧ name = name' ∧ ordinal = ordinal' := by
  obtain ⟨rfl, behind⟩ := format_inj same
  rcases numbering_cases behind with ⟨names, numbers⟩ | ⟨nonzero, split⟩ | ⟨nonzero, split⟩
  · exact ⟨rfl, apart.shown proper proper' names, numbers⟩
  · rw [← toList_numbered _ nonzero] at split
    exact absurd (String.toList_inj.mp split)
      (apart.unnumbered proper proper' ordinal' nonzero issuable')
  · rw [← toList_numbered _ nonzero] at split
    exact absurd (String.toList_inj.mp split)
      (apart.unnumbered proper' proper ordinal nonzero issuable)

/-- A name that is another one with a number has its first id in common with it. -/
theorem format_of_numbered {name name' : String} {ordinal : Nat} (nonzero : ordinal ≠ 0)
    (same : displayName name = displayName name' ++ "#" ++ toString ordinal) (file : String)
    (kind : Kind) : name ≠ name' ∧ format file kind name 0 = format file kind name' ordinal := by
  constructor
  · rintro rfl
    have chars := congrArg String.toList same
    rw [toList_numbered _ nonzero, List.self_eq_append_right, numbering, if_neg nonzero] at chars
    cases chars
  · rw [format, if_pos rfl, format, if_neg nonzero, key, key, same]
    simp only [String.append_assoc]

theorem Apart.readable (apart : Apart named) : ReadableWithin Issuable named := by
  intro file kind kind' name name' ordinal ordinal' proper proper' issuable issuable' same
  obtain ⟨rfl, rfl, numbers⟩ := apart.inj proper proper' issuable issuable' same
  exact ⟨rfl, numbers⟩

/-- Different names that are shown alike are shown without a number. -/
theorem displayName_of_alike {name name' : String} (different : name ≠ name')
    (shown : displayName name = displayName name') : displayName name = "anonymous" := by
  unfold displayName at shown ⊢
  split
  · rfl
  next named =>
    rw [if_neg named] at shown
    split at shown
    · exact shown
    · exact absurd shown different

end ChunkId

theorem Lineage.within_issuable_iff {lineage : Lineage} : lineage.Within ChunkId.Issuable ↔
    ∀ key, lineage.nextOrdinal key < ChunkId.ordinalLimit := by
  constructor
  · intro within key
    cases next : lineage.nextOrdinal key with
    | zero => decide
    | succ last => exact within key last (next ▸ Nat.lt_succ_self last)
  · intro small key ordinal below
    exact Nat.lt_of_le_of_lt below (small key)

/-! ### The check -/

theorem Text.initial_append {text : String} {char : Char} (initial : text.toList.head? = some char)
    (rest : String) : (text ++ rest).toList.head? = some char := by
  rw [String.toList_append, List.head?_append, initial, Option.some_or]

namespace Violation

/-- Messages about different parts of a version start with different letters. -/
theorem head?_message (violation : Violation) : violation.message.toList.head? =
    some (match violation with
      | .chunkOutside .. | .chunksOverlap .. => 'c'
      | .duplicateId _ => 'd'
      | .outlineMisplaced .. => 'o'
      | .lineCountMismatch .. => 'l'
      | .staleHash _ => 's'
      | .textMismatch => 't') := by
  open Text in
  cases violation with
  | chunkOutside id span lineCount =>
    exact initial_append (initial_append (initial_append (initial_append
      (initial_append rfl id) _) span.text) _) _
  | chunksOverlap firstId first secondId second =>
    exact initial_append (initial_append (initial_append (initial_append (initial_append
      (initial_append (initial_append (initial_append rfl firstId) _) _) _) secondId) _) _) _
  | duplicateId id => exact initial_append rfl id
  | outlineMisplaced node lineCount =>
    exact initial_append (initial_append (initial_append rfl node.text) _) _
  | lineCountMismatch recorded actual =>
    exact initial_append (initial_append (initial_append (initial_append rfl _) _) _) _
  | staleHash id => exact initial_append rfl id
  | textMismatch => decide

/-- The message about an id that occurs twice is not that of any other fault. -/
theorem eq_duplicateId {violation : Violation} {id : String}
    (same : violation.message = (duplicateId id).message) : violation = duplicateId id := by
  have initials := congrArg (·.toList.head?) same
  simp only [head?_message] at initials
  cases violation with
  | duplicateId other =>
    have chars := congrArg String.toList same
    change ("duplicate id " ++ other).toList = ("duplicate id " ++ id).toList at chars
    rw [String.toList_append, String.toList_append] at chars
    rw [String.toList_inj.mp (List.append_cancel_left chars)]
  | _ => cases initials

end Violation

namespace Version

theorem chunkFault?_ne_duplicateId {lineCount : Nat} {seen : List String} {previous : Option Chunk}
    {chunks : List Chunk} (distinct : (chunks.map Chunk.id).Nodup)
    (unseen : ∀ chunk ∈ chunks, chunk.id ∉ seen) (id : String) :
    chunkFault? lineCount seen previous chunks ≠ some (.duplicateId id) := by
  induction chunks generalizing seen previous with
  | nil => exact (Option.some_ne_none _).symm
  | cons chunk rest inductionHypothesis =>
    rw [List.map_cons, List.nodup_cons] at distinct
    unfold chunkFault?
    split
    · intro same
      cases same
    · split
      · intro same
        cases same
      · rw [if_neg (by simpa using unseen chunk List.mem_cons_self)]
        refine inductionHypothesis distinct.2 fun other member => ?_
        rw [List.mem_cons, not_or]
        exact ⟨fun same => distinct.1 (same ▸ List.mem_map_of_mem member),
          unseen other (List.mem_cons_of_mem _ member)⟩

theorem outlineFault?_ne_duplicateId (lineCount least : Nat) (nodes : List Span) (id : String) :
    outlineFault? lineCount least nodes ≠ some (.duplicateId id) := by
  induction nodes generalizing least with
  | nil => exact (Option.some_ne_none _).symm
  | cons node rest inductionHypothesis =>
    unfold outlineFault?
    split
    · exact inductionHypothesis node.startLine
    · intro same
      cases same

theorem textFault?_ne_duplicateId (version : Version) (index : LineIndex) (id : String) :
    version.textFault? index ≠ some (.duplicateId id) := by
  unfold textFault?
  split
  · nofun
  · intro found
    obtain ⟨chunk, _, other⟩ := Option.map_eq_some_iff.mp found
    cases other

/-- If its ids are distinct, a version does not fail for one that occurs twice. -/
theorem validate_ne_duplicateId {version : Version} (distinct : version.ids.Nodup)
    (text : Option String) (file id : String) :
    version.validate text ≠
      .error (.invariantViolation file (Violation.message (.duplicateId id))) := by
  unfold validate
  split
  · nofun
  next violation found =>
    intro same
    rw [violated] at same
    obtain ⟨_, messages⟩ := Error.invariantViolation.inj (Except.error.inj same)
    rw [Violation.eq_duplicateId messages, fault?, Option.or_eq_some_iff, Option.or_eq_some_iff,
      Option.bind_eq_some_iff] at found
    rcases found with inChunks | ⟨_, inOutline | ⟨_, _, _, inText⟩⟩
    · exact chunkFault?_ne_duplicateId distinct (by simp) id inChunks
    · exact outlineFault?_ne_duplicateId _ _ _ id inOutline
    · exact textFault?_ne_duplicateId _ _ id inText

end Version

/-! ### Runs with names apart -/

namespace Engine

/-- Ids keep chunks apart along a run: no version has an id twice, no call fails because of one that
it would have twice, and an id that was in use for a kind and a name is never used for another. -/
structure DistinctRun (engine : Engine) (calls : List Call)
    (served : List (Call × Except Error Outcome)) : Prop where
  distinct : ∀ call outcome, (call, .ok outcome) ∈ served → outcome.version.ids.Nodup
  noDuplicate : ∀ call file id,
    (call, .error (.invariantViolation file (Violation.message (.duplicateId id)))) ∈ served →
      HandedOver engine calls call
        (.invariantViolation file (Violation.message (.duplicateId id)))
  sameBearer : ∀ call earlier call' later, [(call, .ok earlier), (call', .ok later)].Sublist served →
    ∀ chunk ∈ earlier.version.chunks, ∀ chunk' ∈ later.version.chunks, chunk.id = chunk'.id →
      chunk.kind = chunk'.kind ∧ chunk.name = chunk'.name

/-- The ids of the snapshot are accounted for and all numbers fit, whatever its language is. -/
structure Traced (file : String) (named : Kind → String → Prop) (calls : List Call)
    (prior : Option Snapshot) : Prop where
  accounts : ∀ snapshot ∈ prior,
    snapshot.version.lineage.Accounts file named snapshot.version.chunks
  within : ∀ snapshot ∈ prior, snapshot.version.lineage.Within ChunkId.Issuable
  listed : FromCalls calls prior

section apart

variable {engine : Engine} {file : String} {named : Kind → String → Prop} {calls : List Call}
  (apart : ChunkId.Apart named)

include apart

/-- What is merged without a sum that is too great leads to ids that are accounted for. -/
theorem Supplied.sound {job : Job} {prior : Option Snapshot} {input : Merge.Input}
    (supplied : Supplied job prior input) (proper : job.processor.Names named)
    (traced : Traced job.file named calls prior) (fits : input.overflows = false) :
    input.outcome.lineage.Accounts job.file named input.outcome.chunks ∧
      input.outcome.lineage.Within ChunkId.Issuable := by
  have start : input.lineage.Accounts job.file named ((inherited job prior).elim [] Version.chunks) ∧
      input.lineage.Within ChunkId.Issuable := by
    rw [supplied.lineage]
    cases kept : inherited job prior with
    | none => exact ⟨Lineage.accounts_empty _ _, nofun⟩
    | some version =>
      obtain ⟨snapshot, known, rfl⟩ := Option.mem_map.mp (Option.mem_def.mpr kept)
      have listed := (Option.mem_filter_iff.mp known).1
      exact ⟨traced.accounts snapshot listed, traced.within snapshot listed⟩
  have within : input.outcome.lineage.Within ChunkId.Issuable :=
    Lineage.within_issuable_iff.mpr fun key =>
      Merge.Input.nextOrdinal_lt (Lineage.within_issuable_iff.mp start.2 key)
        (Merge.Input.overflows_eq_false_iff.mp fits)
  have accounts := start.1
  rw [← supplied.file] at accounts ⊢
  exact ⟨(Merge.merge_sound apart.readable input.changes (supplied.named named proper) accounts
    supplied.bearers within).accounts, within⟩

variable (proper : ∀ language processor, engine.registry language = some processor →
    processor.Names named)
  {prior : Option Snapshot} {call : Call}

include proper

theorem Traced.answer (traced : Traced file named calls prior)
    (fits : engine.Fits file prior call) :
    (∃ outcome, engine.answer file prior call = .ok outcome ∧
      outcome.version.lineage.Accounts file named outcome.version.chunks ∧
      outcome.version.lineage.Within ChunkId.Issuable) ∨
    ∃ error, engine.answer file prior call = .error error ∧ ∀ other id,
      error = .invariantViolation other (Violation.message (.duplicateId id)) →
        HandedOver engine calls call error := by
  rcases engine.callInput?_cases file prior call with ⟨_, failed⟩ | ⟨processor, registered, concludes⟩
  · exact Or.inr ⟨_, failed, nofun⟩
  · rw [Fits] at fits
    generalize engine.callInput? file prior call = merged at concludes fits
    generalize engine.answer file prior call = result at concludes ⊢
    cases concludes with
    | refused refused =>
      refine Or.inr ⟨_, rfl, fun _ _ duplicate => ?_⟩
      exact refused.handedOver registered traced.listed (by rw [duplicate]; rfl)
    | @unchanged snapshot known =>
      exact Or.inl ⟨_, rfl, traced.accounts snapshot known, traced.within snapshot known⟩
    | @merged input outline recovered report supplied _ =>
      obtain ⟨accounts, within⟩ := supplied.sound apart (proper _ _ registered) traced (fits input rfl)
      have distinct : (Job.version ⟨file, call.text, call.language, processor⟩ input.outcome outline
        recovered).ids.Nodup := accounts.distinct
      cases checked : Job.checked ⟨file, call.text, call.language, processor⟩
          (Job.version _ input.outcome outline recovered) report with
      | ok outcome =>
        rw [Job.checked_eq_ok checked]
        exact Or.inl ⟨_, rfl, accounts, within⟩
      | error error =>
        refine Or.inr ⟨error, rfl, fun other id duplicate => ?_⟩
        rw [Job.checked_eq_error_iff, duplicate] at checked
        exact absurd checked (Version.validate_ne_duplicateId distinct _ _ _)

theorem Traced.remaining (traced : Traced file named calls prior) (member : call ∈ calls)
    (fits : engine.Fits file prior call) :
    Traced file named calls (remaining prior call (engine.answer file prior call)) := by
  rcases traced.answer apart proper fits with ⟨outcome, given, accounts, within⟩ | ⟨error, given, _⟩
  · refine ⟨?_, ?_, traced.listed.remaining member⟩
    · rw [remaining_of_ok given]
      rintro snapshot ⟨⟩
      exact accounts
    · rw [remaining_of_ok given]
      rintro snapshot ⟨⟩
      exact within
  · rw [given]
    exact traced

theorem Traced.moment {store : Store} (traced : Traced file named calls (store.peek? file))
    (fits : ∀ input ∈ engine.merges file store calls, input.overflows = false)
    {result : Except Error Outcome} (among : (call, result) ∈ engine.serve file store calls) :
    ∃ prior, Traced file named calls prior ∧ engine.Fits file prior call ∧
      engine.answer file prior call = result := by
  rw [serve_eq_map_moments] at among
  obtain ⟨moment, member, same⟩ := List.mem_map.mp among
  obtain ⟨rfl, given⟩ := Prod.mk.inj same
  obtain ⟨_, traced⟩ := engine.moments_invariant file (Traced file named calls)
    (fun moment member among traced =>
      traced.remaining apart proper among (fits_of_merges fits member)) traced moment member
  exact ⟨moment.1, traced, fits_of_merges fits member, given⟩

/-- Where no two names can have an id in common, ids keep chunks apart. -/
theorem Traced.distinctRun {store : Store} (traced : Traced file named calls (store.peek? file))
    (fits : ∀ input ∈ engine.merges file store calls, input.overflows = false) :
    DistinctRun engine calls (engine.serve file store calls) := by
  have accounted : ∀ call outcome, (call, .ok outcome) ∈ engine.serve file store calls →
      outcome.version.lineage.Accounts file named outcome.version.chunks ∧
        outcome.version.lineage.Within ChunkId.Issuable := by
    intro call outcome among
    obtain ⟨prior, traced, fits, given⟩ := traced.moment apart proper fits among
    rcases traced.answer apart proper fits with ⟨_, found, accounts⟩ | ⟨_, found, _⟩
    · cases given.symm.trans found
      exact accounts
    · cases given.symm.trans found
  refine ⟨fun call outcome among => (accounted call outcome among).1.distinct,
    fun call other id among => ?_,
    fun call earlier call' later both chunk member chunk' member' same => ?_⟩
  · obtain ⟨prior, traced, fits, given⟩ := traced.moment apart proper fits among
    rcases traced.answer apart proper fits with ⟨_, found, _⟩ | ⟨_, found, handedOver⟩
    · cases given.symm.trans found
    · cases given.symm.trans found
      exact handedOver other id rfl
  · obtain ⟨⟨vouches, _⟩, within⟩ := accounted call earlier (both.subset List.mem_cons_self)
    obtain ⟨⟨vouches', _⟩, within'⟩ := accounted call' later
      (both.subset (List.mem_cons_of_mem _ List.mem_cons_self))
    have listed := List.mem_append_left (earlier.version.lineage.tombstones.map Tombstone.bearer)
      (List.mem_map_of_mem (f := Chunk.bearer) member)
    have listed' := List.mem_append_left (later.version.lineage.tombstones.map Tombstone.bearer)
      (List.mem_map_of_mem (f := Chunk.bearer) member')
    obtain ⟨ordinal, below, written⟩ := vouches.issued _ listed
    obtain ⟨ordinal', below', written'⟩ := vouches'.issued _ listed'
    obtain ⟨kinds, names, _⟩ := apart.inj (vouches.named _ listed) (vouches'.named _ listed')
      (within _ _ below) (within' _ _ below') (written.symm.trans (same.trans written'))
    exact ⟨kinds, names⟩

end apart

end Engine

/-! ### A processor with two names -/

/-- A text with empty lines above it. -/
def Text.lowered : Nat → String → String
  | 0, text => text
  | lines + 1, text => "\n" ++ lowered lines text

theorem Text.size_lowered (lines : Nat) (text : String) :
    (LineIndex.ofText (lowered lines text)).size = (LineIndex.ofText text).size + lines := by
  induction lines with
  | zero => rfl
  | succ lines inductionHypothesis =>
    have closed : EndsLine "\n" := rfl
    rw [LineIndex.size, LineIndex.ofText, lowered, rawLines_append closed, List.length_append]
    change 1 + (LineIndex.ofText (lowered lines text)).size = _
    rw [inductionHypothesis]
    omega

theorem Text.lowered_ne (lines : Nat) : lowered lines "y" ≠ "x" := by
  cases lines with
  | zero => decide
  | succ lines =>
    intro same
    have chars := congrArg (·.toList.head?) same
    simp only [lowered, String.toList_append] at chars
    cases chars

/-- Takes every line for a construct; the name is one for the text `"x"` and another one for all other
texts. -/
def Processor.twoNames (language : Language) (kind : Kind) (name other : String) : Processor :=
  { language
    process := fun text =>
      (linewise language kind (if text = "x" then name else other)).process text
    isBoundary := fun _ _ => true }

namespace Processor

variable {language : Language} {kind : Kind} {name other : String}

/-- Each text is processed like any other, only its name differs. -/
theorem twoNames_lines {text : String} {coverage : Coverage} {extraction : Extraction}
    (processed : (twoNames language kind name other).process text coverage = .ok extraction) :
    (linewise language kind (if text = "x" then name else other)).process text coverage =
      .ok extraction := processed

theorem twoNames_names {named : Kind → String → Prop} (first : named kind name)
    (second : named kind other) : (twoNames language kind name other).Names named := by
  intro text coverage extraction processed draft member
  obtain ⟨kinds, names⟩ := linewise_names _ _ _ (twoNames_lines processed) draft member
  rw [kinds, names]
  split
  · exact first
  · exact second

theorem twoNames_tidy : (twoNames language kind name other).Tidy :=
  fun _ _ _ processed => linewise_tidy _ _ _ (twoNames_lines processed)

theorem twoNames_outlines : (twoNames language kind name other).Outlines :=
  fun _ _ _ processed => linewise_outlines _ _ _ (twoNames_lines processed)

/-- What there is to know about the lines of a text. -/
theorem twoNames_drafts (language : Language) (kind : Kind) (name other text : String) :
    ∃ extraction, (twoNames language kind name other).process text .file = .ok extraction ∧
      extraction.drafts.length = (LineIndex.ofText text).size ∧
      (∀ draft ∈ extraction.drafts, draft.span.Fits (LineIndex.ofText text).size) ∧
      (extraction.drafts.Pairwise fun left right => left.span.Before right.span) ∧
      ∀ draft ∈ extraction.drafts,
        draft.kind = kind ∧ draft.name = if text = "x" then name else other := by
  obtain ⟨extraction, processed, length⟩ : ∃ extraction,
      (twoNames language kind name other).process text .file = .ok extraction ∧
        extraction.drafts.length = (LineIndex.ofText text).size :=
    ⟨_, rfl, (List.length_map _).trans List.length_range⟩
  obtain ⟨fit, row⟩ := twoNames_tidy processed
  exact ⟨extraction, processed, length, fit, row, linewise_names _ _ _ (twoNames_lines processed)⟩

end Processor

/-! ### Runs with names that clash -/

namespace Engine

/-- A parse of the whole text that leads to different ids succeeds. -/
theorem answer_full (engine : Engine) (job : Job) (prior : Option Snapshot) {extraction : Extraction}
    (registered : engine.registry job.language = some job.processor)
    (outlines : job.processor.Outlines)
    (processed : job.processor.process job.text .file = .ok extraction)
    (distinct : ∀ changes,
      ((engine.fullMerge job (inherited job prior) changes extraction).chunks.map Chunk.id).Nodup) :
    ∃ changes report, engine.answer job.file prior ⟨.full, job.text, job.language⟩ =
      .ok ⟨job.version (engine.fullMerge job (inherited job prior) changes extraction)
        extraction.outline extraction.recovered, report⟩ := by
  obtain ⟨changes, reason, built⟩ := engine.build_full job prior
  refine ⟨changes, engine.fullReport job (inherited job prior) changes reason extraction, ?_⟩
  rw [answer, registered]
  refine built.trans ?_
  rw [fullAnswer, processed]
  exact checked_of_valid (valid_full (outlines processed).1 (outlines processed).2 (distinct changes)) _

/-- A version whose only chunk is the first one of its kind and name in the file. -/
structure First (file : String) (kind : Kind) (name : String) (version : Version) : Prop where
  ids : version.ids = [ChunkId.format file kind name 0]
  alike : ∀ chunk ∈ version.chunks, chunk.kind = kind ∧ chunk.name = name
  forgotten : version.lineage.tombstones = []
  next : version.lineage.nextOrdinal (ChunkId.key kind name) = 1
  unused : ∀ key, key ≠ ChunkId.key kind name → version.lineage.nextOrdinal key = 0

/-- If constructs of another name follow, the id of the only chunk passes to one of them: it is taken
over if the two names have the same key, and given out anew if they have not. -/
theorem First.passes (engine : Engine) (job : Job) {extraction : Extraction} {kind : Kind}
    {name other : String} {ordinal : Nat} {version : Version}
    (first : First job.file kind name version)
    (shared : ChunkId.format job.file kind name 0 = ChunkId.format job.file kind other ordinal)
    (length : extraction.drafts.length = ordinal + 1)
    (fit : ∀ draft ∈ extraction.drafts, draft.span.Fits job.index.size)
    (row : extraction.drafts.Pairwise fun left right => left.span.Before right.span)
    (alike : ∀ draft ∈ extraction.drafts, draft.kind = kind ∧ draft.name = other)
    (changes : List LineChange) :
    ((engine.fullMerge job (some version) changes extraction).chunks.map Chunk.id).Nodup ∧
      ChunkId.format job.file kind name 0 ∈
        (engine.fullMerge job (some version) changes extraction).chunks.map Chunk.id := by
  have keys : ∀ chunk ∈ version.chunks, chunk.key = ChunkId.key kind name := by
    intro chunk member
    obtain ⟨kinds, names⟩ := first.alike chunk member
    rw [Chunk.key, kinds, names]
  by_cases sameKey : ChunkId.key kind name = ChunkId.key kind other
  · have unnumbered : ordinal = 0 := by
      have same := ChunkId.format_of_key_eq sameKey job.file 0
      exact (ChunkId.format_ordinal_inj (same.symm.trans shared)).symm
    rw [unnumbered] at length
    obtain ⟨draft, single⟩ := List.length_eq_one_iff.mp length
    obtain ⟨chunk, chunks, _⟩ := List.map_eq_singleton_iff.mp first.ids
    have member : chunk ∈ version.chunks := chunks ▸ List.mem_singleton_self chunk
    have among : draft ∈ extraction.drafts := single ▸ List.mem_singleton_self draft
    obtain ⟨kinds, names⟩ := alike draft among
    obtain ⟨old, listed, ids⟩ := engine.fullMerge_claims job changes single (fit draft among) member
      (by rw [keys chunk member, kinds, names, sameKey])
    rw [first.ids, List.mem_singleton] at listed
    rw [ids, listed]
    exact ⟨by simp, List.mem_singleton_self _⟩
  · have others : ∀ old ∈ some version, ∀ chunk ∈ old.chunks, chunk.key ≠ ChunkId.key kind other := by
      rintro _ ⟨⟩ chunk member
      rw [keys chunk member]
      exact sameKey
    have counted := engine.fullMerge_ids job fit row alike (some version) changes others
      first.forgotten (first.unused _ (Ne.symm sameKey))
    rw [length] at counted
    constructor
    · refine counted.nodup_iff.mpr (List.Pairwise.map _ (fun _ _ different same => ?_) List.nodup_range)
      exact different (ChunkId.format_ordinal_inj same)
    · rw [counted.mem_iff, shared]
      exact List.mem_map_of_mem (List.mem_range.mpr (Nat.lt_succ_self ordinal))

/-- The parse can be carried out if the id that passes can be noted and given out. -/
theorem First.fits (engine : Engine) (job : Job) {extraction : Extraction} {kind : Kind}
    {name other : String} {ordinal : Nat} {version : Version}
    (first : First job.file kind name version)
    (shared : ChunkId.format job.file kind name 0 = ChunkId.format job.file kind other ordinal)
    (issuable : ChunkId.Issuable ordinal)
    (reads : ∀ number ∈ ChunkId.ordinal? (ChunkId.format job.file kind name 0),
      ChunkId.Issuable number)
    (length : extraction.drafts.length = ordinal + 1)
    (fit : ∀ draft ∈ extraction.drafts, draft.span.Fits job.index.size)
    (row : extraction.drafts.Pairwise fun left right => left.span.Before right.span)
    (alike : ∀ draft ∈ extraction.drafts, draft.kind = kind ∧ draft.name = other)
    (changes : List LineChange) :
    (engine.fullInput job (some version) changes extraction).overflows = false := by
  have noted : ∀ old ∈ some version, ∀ chunk ∈ old.chunks, ∀ sum ∈ Lineage.noted chunk,
      sum.2 < ChunkId.ordinalLimit := by
    rintro _ ⟨⟩ chunk member sum formed
    have written : chunk.id ∈ version.ids := List.mem_map_of_mem member
    rw [first.ids, List.mem_singleton] at written
    rw [Lineage.noted, written] at formed
    obtain ⟨number, read, rfl⟩ := List.mem_map.mp formed
    exact reads number (Option.mem_toList.mp read)
  have numbers : ∀ key, version.lineage.nextOrdinal key < ChunkId.ordinalLimit := by
    intro key
    by_cases same : key = ChunkId.key kind name
    · rw [same, first.next]
      decide
    · rw [first.unused key same]
      decide
  have keys : ∀ chunk ∈ version.chunks, chunk.key = ChunkId.key kind name := by
    intro chunk member
    obtain ⟨kinds, names⟩ := first.alike chunk member
    rw [Chunk.key, kinds, names]
  by_cases sameKey : ChunkId.key kind name = ChunkId.key kind other
  · -- The only construct takes the id over, so that no number is counted on.
    have notedHere := noted_of_fullInput noted (job.freshChunks extraction.drafts) changes
    have kept : (engine.fullInput job (some version) changes extraction).closed.lineage =
        (engine.fullInput job (some version) changes extraction).opened.lineage := by
      have unnumbered : ordinal = 0 := by
        have same := ChunkId.format_of_key_eq sameKey job.file 0
        exact (ChunkId.format_ordinal_inj (same.symm.trans shared)).symm
      rw [unnumbered, ← length_constructs job fit row] at length
      obtain ⟨construct, single⟩ := List.length_eq_one_iff.mp length
      obtain ⟨chunk, chunks, _⟩ := List.map_eq_singleton_iff.mp first.ids
      have among : construct ∈ job.freshChunks extraction.drafts :=
        FreshChunk.mem_of_mem_dropOverlapping (single ▸ List.mem_singleton_self construct)
      obtain ⟨kinds, names⟩ := freshChunks_alike job alike construct among
      have unclaimed : (engine.fullInput job (some version) changes extraction).opened.unclaimed =
          [.ofPrior changes chunk] := by
        change ((version.chunks.map (Invalidated.ofPrior changes)) ++ []).mergeSort _ = _
        rw [chunks, List.append_nil, List.map_singleton, List.mergeSort_singleton]
      have constructs : FreshChunk.dropOverlapping
        (engine.fullInput job (some version) changes extraction).fresh = [construct] := single
      rw [Merge.Input.closed, Merge.closing, constructs]
      refine (Merge.step_of_single (engine.policy job.file) unclaimed ?_).2.1
      rw [FreshChunk.key, kinds, names, ← sameKey]
      exact keys chunk (chunks ▸ List.mem_singleton_self chunk)
    refine Merge.Input.overflows_eq_false notedHere fun key => ?_
    rw [kept]
    exact Merge.Input.opened_lt notedHere (numbers key)
  · refine engine.fullInput_fits job fit row alike (some version) changes ?_ first.forgotten
      (first.unused _ (Ne.symm sameKey)) noted numbers (length ▸ issuable)
    rintro _ ⟨⟩ chunk member
    rw [keys chunk member]
    exact sameKey

/-- An engine with two names for every language. -/
def twoNames (kind : Kind) (name other : String) : Engine :=
  { settings := default
    registry := fun language => some (.twoNames language kind name other) }

section clash

variable (file : String) (kind : Kind) (name other : String) (language : Language)

/-- A text as a job of this engine. -/
def twoNamesJob (text : String) : Job :=
  ⟨file, text, language, .twoNames language kind name other⟩

theorem twoNames_first : ∃ version report,
    (twoNames kind name other).answer file none ⟨.full, "x", language⟩ = .ok ⟨version, report⟩ ∧
      (twoNames kind name other).Fits file none ⟨.full, "x", language⟩ ∧
      First file kind name version ∧ version.language = language := by
  obtain ⟨extraction, processed, length, fit, row, alike⟩ :=
    Processor.twoNames_drafts language kind name other "x"
  rw [if_pos rfl] at alike
  have ids (changes : List LineChange) : ((twoNames kind name other).fullMerge
      (twoNamesJob file kind name other language "x") none changes extraction).chunks.map Chunk.id =
        [ChunkId.format file kind name 0] := by
    have counted := (twoNames kind name other).fullMerge_ids
      (twoNamesJob file kind name other language "x") fit row alike none changes (by simp) rfl rfl
    rw [length] at counted
    exact List.perm_singleton.mp counted
  obtain ⟨changes, report, answered⟩ := (twoNames kind name other).answer_full
    (twoNamesJob file kind name other language "x") none rfl Processor.twoNames_outlines processed
    fun changes => by
      change List.Nodup (List.map Chunk.id (fullMerge _ _ none changes extraction).chunks)
      rw [ids changes]
      simp
  obtain ⟨forgotten, next, unused⟩ := (twoNames kind name other).fullMerge_lineage
    (twoNamesJob file kind name other language "x") fit row alike changes
  have fits : (twoNames kind name other).Fits file none ⟨.full, "x", language⟩ := by
    obtain ⟨changes, merged⟩ := @callInput?_full (twoNames kind name other)
      (twoNamesJob file kind name other language "x") extraction rfl processed none
    intro input same
    cases merged.symm.trans same
    refine fullInput_fits (twoNames kind name other) (twoNamesJob file kind name other language "x")
      fit row alike none changes (by simp) rfl rfl (by simp) (fun _ => ?_) ?_
    · exact (by decide : 0 < ChunkId.ordinalLimit)
    · rw [length]
      exact (by decide : 1 < ChunkId.ordinalLimit)
  exact ⟨_, report, answered, fits, ⟨ids changes, fun chunk member => fullMerge_alike _ _ alike member,
    forgotten, next.trans length, unused⟩, rfl⟩

variable {file kind name other language}

theorem twoNames_second {version : Version} (first : First file kind name version)
    (sameLanguage : version.language = language) {ordinal : Nat}
    (shared : ChunkId.format file kind name 0 = ChunkId.format file kind other ordinal)
    (issuable : ChunkId.Issuable ordinal)
    (reads : ∀ number ∈ ChunkId.ordinal? (ChunkId.format file kind name 0),
      ChunkId.Issuable number) :
    ∃ later report, (twoNames kind name other).answer file (some ⟨version, "x"⟩)
        ⟨.full, Text.lowered ordinal "y", language⟩ = .ok ⟨later, report⟩ ∧
      (twoNames kind name other).Fits file (some ⟨version, "x"⟩)
        ⟨.full, Text.lowered ordinal "y", language⟩ ∧
      ChunkId.format file kind name 0 ∈ later.ids ∧
      ∀ chunk ∈ later.chunks, chunk.kind = kind ∧ chunk.name = other := by
  obtain ⟨extraction, processed, length, fit, row, alike⟩ :=
    Processor.twoNames_drafts language kind name other (Text.lowered ordinal "y")
  rw [if_neg (Text.lowered_ne ordinal)] at alike
  rw [Text.size_lowered, Nat.add_comm] at length
  have inherits : inherited (twoNamesJob file kind name other language (Text.lowered ordinal "y"))
      (some ⟨version, "x"⟩) = some version := inherited_of_language sameLanguage
  have passes := First.passes (twoNames kind name other)
    (twoNamesJob file kind name other language (Text.lowered ordinal "y")) first shared length fit row
    alike
  obtain ⟨changes, report, answered⟩ := (twoNames kind name other).answer_full
    (twoNamesJob file kind name other language (Text.lowered ordinal "y")) (some ⟨version, "x"⟩) rfl
    Processor.twoNames_outlines processed fun changes => inherits ▸ (passes changes).1
  rw [inherits] at answered
  have fits : (twoNames kind name other).Fits file (some ⟨version, "x"⟩)
      ⟨.full, Text.lowered ordinal "y", language⟩ := by
    obtain ⟨changes, merged⟩ := @callInput?_full (twoNames kind name other)
      (twoNamesJob file kind name other language (Text.lowered ordinal "y")) extraction rfl processed
      (some ⟨version, "x"⟩)
    rw [inherits] at merged
    intro input same
    cases merged.symm.trans same
    exact first.fits (twoNames kind name other)
      (twoNamesJob file kind name other language (Text.lowered ordinal "y")) shared issuable reads
      length fit row alike changes
  exact ⟨_, report, answered, fits, (passes changes).2,
    fun chunk member => fullMerge_alike _ _ alike member⟩

variable (language) in
/-- In a run on one file and in one language, an id passes from one name to the other. -/
theorem twoNames_not_distinctRun (different : name ≠ other) {ordinal : Nat}
    (shared : ChunkId.format file kind name 0 = ChunkId.format file kind other ordinal)
    (issuable : ChunkId.Issuable ordinal)
    (reads : ∀ number ∈ ChunkId.ordinal? (ChunkId.format file kind name 0),
      ChunkId.Issuable number) :
    ∃ calls, (∀ call ∈ calls, call.language = language) ∧
      (∀ input ∈ (twoNames kind name other).merges file {} calls, input.overflows = false) ∧
      ¬ DistinctRun (twoNames kind name other) calls
        ((twoNames kind name other).serve file {} calls) := by
  obtain ⟨version, report, answered, fits, first, sameLanguage⟩ :=
    twoNames_first file kind name other language
  obtain ⟨later, laterReport, laterAnswered, laterFits, member, alike⟩ :=
    twoNames_second first sameLanguage shared issuable reads
  have moments : (twoNames kind name other).moments file {}
      [⟨.full, "x", language⟩, ⟨.full, Text.lowered ordinal "y", language⟩] =
        [(none, ⟨.full, "x", language⟩),
          (some ⟨version, "x"⟩, ⟨.full, Text.lowered ordinal "y", language⟩)] := by
    have left := ((twoNames kind name other).perform_eq file {} ⟨.full, "x", language⟩).2.trans
      (remaining_of_ok answered)
    simp only [Engine.moments, left]
    rfl
  refine ⟨[⟨.full, "x", language⟩, ⟨.full, Text.lowered ordinal "y", language⟩], by simp, ?_,
    fun distinct => ?_⟩
  · simp only [merges, moments, List.mem_flatMap, Option.mem_toList, List.mem_cons, List.not_mem_nil,
      or_false]
    rintro input ⟨_, rfl | rfl, merged⟩
    · exact fits input merged
    · exact laterFits input merged
  have served := (twoNames kind name other).serve_eq_map_moments file {}
    [⟨.full, "x", language⟩, ⟨.full, Text.lowered ordinal "y", language⟩]
  simp only [moments, List.map_cons, List.map_nil, answered, laterAnswered] at served
  obtain ⟨chunk, chunks, id⟩ := List.map_eq_singleton_iff.mp first.ids
  have listed : chunk ∈ version.chunks := chunks ▸ List.mem_singleton_self chunk
  obtain ⟨chunk', listed', id'⟩ := List.mem_map.mp member
  rw [served] at distinct
  obtain ⟨_, names⟩ := distinct.sameBearer _ _ _ _ (List.Sublist.refl _) chunk listed chunk' listed'
    (id.trans id'.symm)
  exact different (((first.alike chunk listed).2.symm.trans names).trans (alike chunk' listed').2)

end clash

/-- Ids keep chunks apart in every run with processors that give names of a certain sort, exactly if
no two of these names can have an id in common. -/
theorem distinctRun_iff_apart (named : Kind → String → Prop) :
    (∀ engine : Engine, (∀ language processor, engine.registry language = some processor →
        processor.Names named ∧ processor.Tidy) →
      ∀ file store, store.peek? file = none → ∀ calls,
        (∀ input ∈ engine.merges file store calls, input.overflows = false) →
          DistinctRun engine calls (engine.serve file store calls)) ↔ ChunkId.Apart named := by
  constructor
  · intro always
    have unshared {kind : Kind} {name other : String} {ordinal : Nat} (first : named kind name)
        (second : named kind other) (different : name ≠ other) (issuable : ChunkId.Issuable ordinal)
        (reads : ∀ number ∈ ChunkId.ordinal? (ChunkId.format "" kind name 0),
          ChunkId.Issuable number) :
        ChunkId.format "" kind name 0 ≠ ChunkId.format "" kind other ordinal := by
      intro shared
      obtain ⟨calls, _, fits, notDistinct⟩ :=
        twoNames_not_distinctRun .python different shared issuable reads
      refine notDistinct (always (twoNames kind name other) ?_ "" {} rfl calls fits)
      rintro language _ ⟨⟩
      exact ⟨Processor.twoNames_names first second, Processor.twoNames_tidy⟩
    refine ⟨fun kind name name' first second shown => ?_,
      fun kind name name' first second ordinal nonzero issuable same => ?_⟩
    · have sameKey : ChunkId.key kind name = ChunkId.key kind name' := by
        rw [ChunkId.key, ChunkId.key, shown]
      by_contra different
      refine unshared first second different (by decide) (fun number read => ?_)
        (ChunkId.format_of_key_eq sameKey "" 0)
      rw [ChunkId.ordinal?_format_zero, ChunkId.displayName_of_alike different shown,
        ChunkId.ordinal?_of_not_mem (by decide)] at read
      cases read
      decide
    · obtain ⟨different, shared⟩ := ChunkId.format_of_numbered nonzero same "" kind
      refine unshared first second different issuable (fun number read => ?_) shared
      have fits : ordinal < ChunkId.ordinalLimit := Nat.lt_of_succ_lt issuable
      rw [shared, ChunkId.ordinal?_format_of_ne_zero _ _ _ nonzero, if_pos fits] at read
      cases read
      exact issuable
  · intro apart engine suited file store new calls fits
    have start : Traced file named calls (store.peek? file) := by
      rw [new]
      exact ⟨by simp, by simp, by simp [FromCalls]⟩
    exact start.distinctRun apart (fun language processor registered =>
      (suited language processor registered).1) fits

/-- The second construct named `"a"` gets the id of a dropped chunk named `"a#1"`, which is taken over
as well. -/
example (confidence : Number.Single) : (Merge.merge ⟨"f", .nameTypeProximity, 3⟩ []
    [⟨⟨.function, "a", ⟨1, 1⟩, confidence, false, {}⟩, "", confidence⟩,
      ⟨⟨.function, "a", ⟨2, 2⟩, confidence, false, {}⟩, "", confidence⟩,
      ⟨⟨.function, "a#1", ⟨3, 3⟩, confidence, false, {}⟩, "", confidence⟩]
    [⟨⟨"f::function::a#1", .function, "a#1", ⟨1, 1⟩, "", confidence, {}⟩, 1⟩] {} []).chunks.map
      Chunk.id = ["f::function::a", "f::function::a#1", "f::function::a#1"] := by
  cbv

end Engine

end Chunking
