/-
The ids of one file over a whole run. Every version comes with a lineage that
accounts for its ids, and every answer takes this over from the version before. So
an id that was once in use stays known for good, even when it is no longer
remembered, and what is known is never given out as a new id.
-/

import Chunking.Proofs.Identifiers
import Chunking.Proofs.MergeIds
import Chunking.Proofs.Runs
import Chunking.Proofs.Validity

namespace Chunking

/-! ### One answer -/

namespace Engine

variable {engine : Engine} {job : Job} {named : Kind → String → Prop}

/-- What an answer does to ids, if it starts from the version `base`. -/
structure IdStep (engine : Engine) (file : String) (named : Kind → String → Prop)
    (base : Option Version) (outcome : Outcome) : Prop where
  accounts : outcome.version.lineage.Accounts file named outcome.version.chunks
  covers : outcome.version.lineage.Covers (base.elim {} Version.lineage)
  unknown : ∀ id ∈ outcome.report.allocatedIds,
    ¬ (base.elim {} Version.lineage).Knows file named id
  strict : engine.settings.idMatching = .strictNameType → ∀ id ∈ outcome.version.ids,
    id ∈ base.elim [] Version.ids ∨ ¬ (base.elim {} Version.lineage).Knows file named id

/-- The lineage of a result knows its ids. -/
theorem IdStep.knows {file : String} {base : Option Version} {outcome : Outcome}
    (step : IdStep engine file named base outcome) {id : String}
    (member : id ∈ outcome.version.ids) :
    outcome.version.lineage.Knows file named id := by
  refine step.accounts.vouches.knows ?_
  rw [List.map_append, List.map_map]
  exact List.mem_append_left _ member

theorem freshChunks_named {drafts : List Draft}
    (proper : ∀ draft ∈ drafts, named draft.kind draft.name) :
    ∀ fresh ∈ job.freshChunks drafts, named fresh.draft.kind fresh.draft.name := by
  intro fresh member
  obtain ⟨draft, among, _, _, rfl⟩ := Job.mem_freshChunks.mp member
  exact proper draft among

theorem fullMerge_sound (readable : ChunkId.Readable named) {extraction : Extraction}
    (proper : ∀ draft ∈ extraction.drafts, named draft.kind draft.name) {base : Option Version}
    (accounts : ∀ version ∈ base, version.lineage.Accounts job.file named version.chunks)
    (changes : List LineChange) :
    (engine.fullMerge job base changes extraction).Sound (engine.policy job.file) named
      (base.elim {} Version.lineage) (base.elim [] Version.ids) := by
  have fresh : ∀ fresh ∈ job.freshChunks extraction.drafts, named fresh.draft.kind fresh.draft.name :=
    freshChunks_named proper
  cases base with
  | none =>
    change Merge.Outcome.Sound _ named {} (([] : List Chunk).map Chunk.id) _
    exact Merge.merge_sound readable changes fresh (Lineage.accounts_empty job.file named) .nil
      (Lineage.within_true _)
  | some version =>
    refine Merge.merge_sound readable changes fresh (accounts version rfl) ?_
      (Lineage.within_true _)
    rw [Option.elim_some, List.nil_append, Resolution.bearers_ofPrior]

theorem windowMerge_sound (readable : ChunkId.Readable named) {found : WindowFindings}
    (proper : ∀ draft ∈ found.drafts, named draft.kind draft.name) {version : Version}
    (accounts : version.lineage.Accounts job.file named version.chunks) {changes : List LineChange}
    {windows : List LineRange} {swallowed : List Chunk} {resolution : Resolution}
    (windowed : Resolution.Windowed job.processor.isBoundary version changes job.index windows
      swallowed resolution) :
    (engine.windowMerge job version changes resolution found).Sound (engine.policy job.file) named
      version.lineage version.ids :=
  Merge.merge_sound readable changes (freshChunks_named proper) accounts windowed.bearers_perm
    (Lineage.within_true _)

theorem inherited_accounts {file : String} {prior : Option Snapshot}
    (accounts : ∀ snapshot ∈ prior,
      snapshot.version.lineage.Accounts file named snapshot.version.chunks) :
    ∀ version ∈ inherited job prior, version.lineage.Accounts file named version.chunks := by
  intro version member
  obtain ⟨snapshot, kept, rfl⟩ := Option.mem_map.mp member
  exact accounts snapshot (Option.mem_filter_iff.mp kept).1

theorem FoundIn.names {windows : List LineRange} {found : WindowFindings}
    (foundIn : FoundIn job windows found) (proper : job.processor.Names named) :
    ∀ draft ∈ found.drafts, named draft.kind draft.name := by
  intro draft member
  obtain ⟨window, _, extraction, processed, inner, among, rfl⟩ := (foundIn.drafts draft).mp member
  exact proper processed inner among

/-- A merge that is taken for a version and its report. -/
theorem IdStep.of_merge {file : String} {base : Option Version} {merged : Merge.Outcome}
    {version : Version} {report : Report}
    (sound : merged.Sound (engine.policy file) named (base.elim {} Version.lineage)
      (base.elim [] Version.ids))
    (chunks : version.chunks = merged.chunks) (lineage : version.lineage = merged.lineage)
    (allocated : report.allocatedIds = merged.allocated) :
    IdStep engine file named base ⟨version, report⟩ := by
  refine ⟨?_, ?_, ?_, fun strict id member => ?_⟩
  · simp only [chunks, lineage]
    exact sound.accounts
  · simp only [lineage]
    exact sound.covers
  · simp only [allocated]
    exact sound.unknown
  · obtain ⟨chunk, among, rfl⟩ := List.mem_map.mp member
    exact sound.strict strict chunk (chunks ▸ among)

/-- An error that a processor or the comparison of two texts handed over in a run. -/
def HandedOver (engine : Engine) (calls : List Call) (call : Call) (error : Error) : Prop :=
  (∃ processor part, engine.registry call.language = some processor ∧
    processor.process part .window = .error error) ∨
  ∃ earlier ∈ calls, engine.detect earlier.text call.text = .error error

theorem fullParseError_isDefect (file : String) (error : Error) :
    (fullParseError file error).isDefect = false := by
  cases error <;> rfl

/-- Someone else is to blame for a defect: the processor on a part of the text, or the comparison
with the text before. -/
theorem Refused.handedOver {file : String} {processor : Processor} {calls : List Call} {call : Call}
    {prior : Option Snapshot} {error : Error}
    (refused : Refused engine ⟨file, call.text, call.language, processor⟩ prior error)
    (registered : engine.registry call.language = some processor) (listed : FromCalls calls prior)
    (defect : error.isDefect = true) : HandedOver engine calls call error := by
  cases refused with
  | @comparison snapshot _ known failed =>
    obtain ⟨earlier, among, same⟩ := listed snapshot known
    exact Or.inr ⟨earlier, among, same ▸ failed⟩
  | @window _ part failed => exact Or.inl ⟨processor, part, registered, failed⟩
  | parse =>
    rw [fullParseError_isDefect] at defect
    cases defect

/-- An answer takes the account of ids over. -/
theorem Answered.idStep {prior : Option Snapshot} {outcome : Outcome}
    (answered : Answered engine job prior (.ok outcome)) (readable : ChunkId.Readable named)
    (proper : job.processor.Names named)
    (accounts : ∀ snapshot ∈ prior,
      snapshot.version.lineage.Accounts job.file named snapshot.version.chunks) :
    IdStep engine job.file named (inherited job prior) outcome := by
  generalize given : Except.ok outcome = result at answered
  cases answered with
  | @unchanged snapshot known sameLanguage =>
    subst known
    cases given
    rw [inherited_of_language sameLanguage]
    exact ⟨accounts snapshot rfl, .refl _, by simp [Engine.unchanged], fun _ id member => Or.inl member⟩
  | refused => cases given
  | full changes reason processed =>
    rw [Job.checked_eq_ok given.symm]
    exact .of_merge (fullMerge_sound readable (proper processed) (inherited_accounts accounts)
      changes) rfl rfl rfl
  | @windows snapshot changes resolution windows swallowed found known sameLanguage _ _ windowed
      foundIn =>
    subst known
    rw [Job.checked_eq_ok given.symm, inherited_of_language sameLanguage]
    exact .of_merge (windowMerge_sound readable (foundIn.names proper) (accounts snapshot rfl)
      windowed) rfl rfl rfl

end Engine

/-! ### The ids of a version -/

/-- Every id of a version and every remembered one is in one place only, and carries a number below
the next one of its kind and name. -/
structure Version.OrderlyIds (file : String) (version : Version) : Prop where
  distinct : version.ids.Nodup
  few : version.lineage.tombstones.length ≤ 64
  tombstonesDistinct : (version.lineage.tombstones.map Tombstone.id).Nodup
  disjoint : ∀ tombstone ∈ version.lineage.tombstones, tombstone.id ∉ version.ids
  numbered : ∀ chunk ∈ version.chunks, ∃ next,
    version.lineage.ordinals.get? (ChunkId.key chunk.kind chunk.name) = some next ∧
      ∃ ordinal < next, chunk.id = ChunkId.format file chunk.kind chunk.name ordinal
  tombstonesNumbered : ∀ tombstone ∈ version.lineage.tombstones, ∃ next,
    version.lineage.ordinals.get? (ChunkId.key tombstone.kind tombstone.name) = some next ∧
      ∃ ordinal < next, tombstone.id = ChunkId.format file tombstone.kind tombstone.name ordinal

theorem Lineage.Issued.numbered {lineage : Lineage} {file : String} {bearer : Bearer}
    (issued : lineage.Issued file bearer) : ∃ next, lineage.ordinals.get? bearer.key = some next ∧
      ∃ ordinal < next, bearer.id = ChunkId.format file bearer.kind bearer.name ordinal := by
  obtain ⟨ordinal, below, written⟩ := issued
  rw [Lineage.nextOrdinal] at below
  cases found : lineage.ordinals.get? bearer.key with
  | none =>
    rw [found] at below
    exact absurd below (Nat.not_lt_zero _)
  | some next =>
    rw [found] at below
    exact ⟨next, rfl, ordinal, below, written⟩

theorem Lineage.Accounts.orderlyIds {version : Version} {file : String}
    {named : Kind → String → Prop}
    (accounts : version.lineage.Accounts file named version.chunks) : version.OrderlyIds file := by
  have distinct := accounts.vouches.distinct
  rw [List.map_append, List.map_map, List.map_map] at distinct
  obtain ⟨ids, tombstones, apart⟩ := List.nodup_append.mp distinct
  refine ⟨ids, accounts.few, tombstones, fun tombstone member live => ?_, fun chunk member => ?_,
    fun tombstone member => ?_⟩
  · exact apart _ live _ (List.mem_map_of_mem member) rfl
  · exact (accounts.vouches.issued chunk.bearer
      (List.mem_append_left _ (List.mem_map_of_mem member))).numbered
  · exact (accounts.vouches.issued tombstone.bearer
      (List.mem_append_right _ (List.mem_map_of_mem member))).numbered

/-! ### Runs in one language -/

namespace Engine

variable {engine : Engine} {named : Kind → String → Prop}

/-- The snapshot is in the language, and its lineage accounts for its ids. -/
def Accounted (file : String) (language : Language) (named : Kind → String → Prop)
    (prior : Option Snapshot) : Prop :=
  ∀ snapshot ∈ prior, snapshot.version.language = language ∧
    snapshot.version.lineage.Accounts file named snapshot.version.chunks

/-- The file is known under a lineage that knows the id. -/
def Remembers (file : String) (named : Kind → String → Prop) (id : String)
    (prior : Option Snapshot) : Prop :=
  ∃ snapshot ∈ prior, snapshot.version.lineage.Knows file named id

/-- The id is known, but no chunk has it. -/
def Gone (file : String) (named : Kind → String → Prop) (id : String)
    (prior : Option Snapshot) : Prop :=
  ∃ snapshot ∈ prior, snapshot.version.lineage.Knows file named id ∧ id ∉ snapshot.version.ids

section oneLanguage

variable {file : String} {language : Language} (readable : ChunkId.Readable named)
  (proper : ∀ processor, engine.registry language = some processor → processor.Names named)
  {prior : Option Snapshot} {call : Call} {outcome : Outcome}

include readable proper

theorem Accounted.idStep (accounted : Accounted file language named prior)
    (inLanguage : call.language = language) (given : engine.answer file prior call = .ok outcome) :
    IdStep engine file named (prior.map Snapshot.version) outcome ∧
      outcome.version.language = language := by
  rcases engine.answer_cases file prior call with ⟨_, failed⟩ | ⟨processor, registered, answered⟩
  · rw [failed] at given
    cases given
  · rw [given] at answered
    have step := answered.idStep readable (proper processor (inLanguage ▸ registered))
      fun snapshot member => (accounted snapshot member).2
    have whole : inherited ⟨file, call.text, call.language, processor⟩ prior =
        prior.map Snapshot.version := by
      cases prior with
      | none => rfl
      | some snapshot =>
        exact inherited_of_language ((accounted snapshot rfl).1.trans inLanguage.symm)
    exact ⟨whole ▸ step, answered.version_of_ok.1.trans inLanguage⟩

/-- What an answer leaves behind is accounted for if what it found was. -/
theorem Accounted.remaining (accounted : Accounted file language named prior)
    (inLanguage : call.language = language) :
    Accounted file language named (remaining prior call (engine.answer file prior call)) := by
  cases given : engine.answer file prior call with
  | error error => exact accounted
  | ok outcome =>
    obtain ⟨step, sameLanguage⟩ := accounted.idStep readable proper inLanguage given
    rw [← given, remaining_of_ok given]
    rintro snapshot ⟨⟩
    exact ⟨sameLanguage, step.accounts⟩

theorem Remembers.remaining {id : String} (remembers : Remembers file named id prior)
    (accounted : Accounted file language named prior) (inLanguage : call.language = language) :
    Remembers file named id (Engine.remaining prior call (engine.answer file prior call)) := by
  cases given : engine.answer file prior call with
  | error error => exact remembers
  | ok outcome =>
    obtain ⟨step, _⟩ := accounted.idStep readable proper inLanguage given
    rw [← given, remaining_of_ok given]
    obtain ⟨snapshot, rfl, known⟩ := remembers
    exact ⟨_, rfl, known.mono step.covers⟩

/-- An id that is gone cannot come back as the id of an old chunk, nor as a new one. -/
theorem Gone.not_mem {id : String} (gone : Gone file named id prior)
    (strict : engine.settings.idMatching = .strictNameType)
    (accounted : Accounted file language named prior) (inLanguage : call.language = language)
    (given : engine.answer file prior call = .ok outcome) : id ∉ outcome.version.ids := by
  obtain ⟨step, _⟩ := accounted.idStep readable proper inLanguage given
  obtain ⟨snapshot, rfl, known, absent⟩ := gone
  intro member
  rcases step.strict strict id member with old | unknown
  · exact absent old
  · exact unknown known

theorem Gone.remaining {id : String} (gone : Gone file named id prior)
    (strict : engine.settings.idMatching = .strictNameType)
    (accounted : Accounted file language named prior) (inLanguage : call.language = language) :
    Gone file named id (Engine.remaining prior call (engine.answer file prior call)) := by
  cases given : engine.answer file prior call with
  | error error => exact gone
  | ok outcome =>
    have absent := gone.not_mem readable proper strict accounted inLanguage given
    obtain ⟨step, _⟩ := accounted.idStep readable proper inLanguage given
    rw [← given, remaining_of_ok given]
    obtain ⟨snapshot, rfl, known, _⟩ := gone
    exact ⟨_, rfl, known.mono step.covers, absent⟩

/-- Whenever a call of the run has a result, its ids follow from those before, and the run goes on
from what it leaves behind. `Extra` is whatever else is preserved. -/
theorem Accounted.moment (Extra : Option Snapshot → Prop) {calls : List Call} {store : Store}
    (inLanguage : ∀ call ∈ calls, call.language = language)
    (kept : ∀ call ∈ calls, ∀ prior, Accounted file language named prior → Extra prior →
      Extra (Engine.remaining prior call (engine.answer file prior call)))
    (accounted : Accounted file language named (store.peek? file)) (extra : Extra (store.peek? file))
    {later : List (Call × Except Error Outcome)}
    (among : ((call, .ok outcome) :: later).Sublist (engine.serve file store calls)) :
    ∃ prior rest next, Extra prior ∧ Accounted file language named prior ∧ call ∈ calls ∧
      engine.answer file prior call = .ok outcome ∧
      next.peek? file = some ⟨outcome.version, call.text⟩ ∧
      Accounted file language named (next.peek? file) ∧ (∀ other ∈ rest, other ∈ calls) ∧
      later.Sublist (engine.serve file next rest) := by
  obtain ⟨prior, rest, next, ⟨accounted, extra⟩, member, given, left, fewer, after⟩ :=
    engine.serve_moment file (fun prior => Accounted file language named prior ∧ Extra prior)
      (fun call member prior both => ⟨both.1.remaining readable proper (inLanguage call member),
        kept call member prior both.1 both.2⟩) ⟨accounted, extra⟩ among
  have following := accounted.remaining readable proper (inLanguage call member)
  rw [given] at left
  rw [← left] at following
  rw [remaining_of_ok given.symm] at left
  exact ⟨prior, rest, next, extra, accounted, member, given.symm, left, following, fewer, after⟩

/-- An id that is remembered is never given out as a new one. -/
theorem Remembers.not_allocated {id : String} {calls : List Call} {store : Store}
    (inLanguage : ∀ call ∈ calls, call.language = language)
    (accounted : Accounted file language named (store.peek? file))
    (remembers : Remembers file named id (store.peek? file))
    (among : (call, .ok outcome) ∈ engine.serve file store calls) :
    id ∉ outcome.report.allocatedIds := by
  obtain ⟨prior, _, _, remembers, accounted, member, given, _⟩ :=
    Accounted.moment readable proper (Remembers file named id) inLanguage
      (fun other member prior accounted remembers =>
        remembers.remaining readable proper accounted (inLanguage other member))
      accounted remembers (List.singleton_sublist.mpr among)
  obtain ⟨step, _⟩ := accounted.idStep readable proper (inLanguage call member) given
  obtain ⟨snapshot, rfl, known⟩ := remembers
  exact fun allocated => step.unknown id allocated known

/-- Unless ids may be brought back, an id that is gone stays away. -/
theorem Gone.stays {id : String} {calls : List Call} {store : Store}
    (strict : engine.settings.idMatching = .strictNameType)
    (inLanguage : ∀ call ∈ calls, call.language = language)
    (accounted : Accounted file language named (store.peek? file))
    (gone : Gone file named id (store.peek? file))
    (among : (call, .ok outcome) ∈ engine.serve file store calls) : id ∉ outcome.version.ids := by
  obtain ⟨prior, _, _, gone, accounted, member, given, _⟩ :=
    Accounted.moment readable proper (Gone file named id) inLanguage
      (fun other member prior accounted gone =>
        gone.remaining readable proper strict accounted (inLanguage other member))
      accounted gone (List.singleton_sublist.mpr among)
  exact gone.not_mem readable proper strict accounted (inLanguage call member) given

end oneLanguage

/-- How ids fare along a run. Whether ids may be brought back makes a difference only for the last
point. -/
structure OrderlyRun (file : String) (matching : IdMatching)
    (served : List (Call × Except Error Outcome)) : Prop where
  orderly : ∀ call outcome, (call, .ok outcome) ∈ served → outcome.version.OrderlyIds file
  /-- An id that is given out was in no version before. -/
  unused : ∀ call earlier call' later, [(call, .ok earlier), (call', .ok later)].Sublist served →
    ∀ id ∈ later.report.allocatedIds, id ∉ earlier.version.ids
  /-- An id that is gone stays away. -/
  gone : matching = .strictNameType → ∀ call first call' second call'' third,
    [(call, .ok first), (call', .ok second), (call'', .ok third)].Sublist served →
    ∀ id ∈ first.version.ids, id ∉ second.version.ids → id ∉ third.version.ids

/-- A run on one file and in one language is orderly if no name looks numbered. -/
theorem serve_orderly (engine : Engine) (file : String) (language : Language)
    (plain : ∀ processor, engine.registry language = some processor →
      processor.Names fun _ name => ¬ ChunkId.Numbered name)
    (store : Store) (new : store.peek? file = none) (calls : List Call)
    (inLanguage : ∀ call ∈ calls, call.language = language) :
    OrderlyRun file engine.settings.idMatching (engine.serve file store calls) := by
  have readable := ChunkId.readable_of_not_numbered
  have start : Accounted file language (fun _ name => ¬ ChunkId.Numbered name)
      (store.peek? file) := by
    rw [new]
    exact nofun
  have anything : ∀ call ∈ calls, ∀ prior,
      Accounted file language (fun _ name => ¬ ChunkId.Numbered name) prior → True → True :=
    fun _ _ _ _ _ => trivial
  refine ⟨fun call outcome member => ?_, fun call earlier call' later among id given used => ?_,
    fun strict call first call' second call'' third among id used absent => ?_⟩
  · obtain ⟨prior, _, _, _, accounted, member, given, _⟩ := Accounted.moment readable plain
      (fun _ => True) inLanguage anything start trivial (List.singleton_sublist.mpr member)
    exact (accounted.idStep readable plain (inLanguage call member) given).1.accounts.orderlyIds
  · obtain ⟨prior, rest, next, _, accounted, member, answered, left, following, fewer, after⟩ :=
      Accounted.moment readable plain (fun _ => True) inLanguage anything start trivial among
    have step := (accounted.idStep readable plain (inLanguage call member) answered).1
    exact Remembers.not_allocated readable plain
      (fun other among => inLanguage other (fewer other among)) following
      ⟨_, left, step.knows used⟩ (List.singleton_sublist.mp after) given
  · obtain ⟨prior, rest, next, _, accounted, member, answered, left, following, fewer, after⟩ :=
      Accounted.moment readable plain (fun _ => True) inLanguage anything start trivial among
    have step := (accounted.idStep readable plain (inLanguage call member) answered).1
    have inLanguage' := fun other among => inLanguage other (fewer other among)
    obtain ⟨prior', rest', next', remembers, accounted', member', answered', left', following',
      fewer', after'⟩ := Accounted.moment readable plain (Remembers file _ id) inLanguage'
        (fun other among prior accounted remembers =>
          remembers.remaining readable plain accounted (inLanguage' other among))
        following ⟨_, left, step.knows used⟩ after
    have step' := (accounted'.idStep readable plain (inLanguage' call' member') answered').1
    obtain ⟨snapshot, rfl, known⟩ := remembers
    exact Gone.stays readable plain strict
      (fun other among => inLanguage' other (fewer' other among)) following'
      ⟨_, left', known.mono step'.covers, absent⟩ (List.singleton_sublist.mp after')

theorem linewise_plain (language : Language) (kind : Kind) {name : String}
    (plain : ¬ ChunkId.Numbered name) :
    (Processor.linewise language kind name).Names fun _ name => ¬ ChunkId.Numbered name := by
  intro text coverage extraction processed draft member
  rw [(Processor.linewise_names _ _ _ processed draft member).2]
  exact plain

/-- A line is added behind one line and taken away again. -/
theorem serve_orderly_linewise : OrderlyRun "notes" .nameTypeProximity
    ((linewise (fun _ => .function) fun _ => "line").serve "notes" {}
      [⟨.auto, "a\n", .python⟩, ⟨.auto, "a\nb\n", .python⟩, ⟨.auto, "a\n", .python⟩]) := by
  refine serve_orderly (linewise (fun _ => .function) fun _ => "line") "notes" .python ?_ {} rfl _
    (by simp)
  rintro _ ⟨⟩
  exact linewise_plain _ _ (ChunkId.not_numbered_of_not_mem (by decide))

end Engine

end Chunking
