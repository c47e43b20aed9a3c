/-
Versions that outlive the engine. Whatever calls led to it, a version that is
current in a store can be entered into an archive, comes back from there as it was,
and passes the checks with which it enters another store; and since the answers to
further calls depend on the store only through the snapshot of the file, they go on
as if nothing had happened.

Three things about a version matter for this. It has passed the check together with
its text. Its confidences are numbers between zero and one, so they can be written.
And its numbers are those of the data form, and the decimal texts of the others are
read as the numbers that they were written for.
-/

import Chunking.Archive
import Chunking.Proofs.Publication
import Chunking.Proofs.Records
import Chunking.Proofs.Validity

namespace Chunking

open Number

/-! ### Confidences -/

namespace Confidence

/-- Whatever a number is, between zero and one it is finite. -/
theorem isFinite_clamp (number : Single) : (clamp number).isFinite = true := by
  have zeroFinite : zero.isFinite = true := by decide
  have oneFinite : one.isFinite = true := by decide
  unfold clamp
  split
  · exact zeroFinite
  next isNumber =>
    split
    · exact zeroFinite
    next notBelow =>
      split
      · exact oneFinite
      next notAbove =>
        have zeroMeaning : zero.meaning = .finite false 0 (-149) := by decide
        have oneMeaning : one.meaning = .finite false 8388608 (-23) := by decide
        unfold Binary.isNaN at isNumber
        unfold Binary.lt at notBelow notAbove
        unfold Binary.isFinite
        rw [zeroMeaning] at notBelow
        rw [oneMeaning] at notAbove
        cases meant : number.meaning with
        | notANumber => exact absurd (decide_eq_true meant) isNumber
        | infinite negative =>
          rw [meant] at notBelow notAbove
          cases negative
          · exact absurd rfl notAbove
          · exact absurd rfl notBelow
        | finite negative mantissa exponent => rfl

theorem isFinite_score (signals : Signals) (raw : Single) :
    (signals.score raw).isFinite = true :=
  isFinite_clamp _

theorem not_isNaN_of_isFinite {number : Single} (finite : number.isFinite = true) :
    number.isNaN = false := by
  unfold Binary.isFinite at finite
  unfold Binary.isNaN
  cases meant : number.meaning with
  | notANumber =>
    rw [meant] at finite
    cases finite
  | infinite negative => rfl
  | finite negative mantissa exponent => rfl

end Confidence

/-! ### Snapshots that are current -/

/-- A snapshot is one of the file, and its version is one of its text. -/
structure Snapshot.Belongs (file : String) (snapshot : Snapshot) : Prop where
  file : snapshot.version.file = file
  digest : snapshot.version.textHash = Digest.ofText snapshot.text
  valid : snapshot.version.Valid snapshot.text

/-- What holds of the snapshot that a file has in the store of an engine. -/
structure Snapshot.Sound (file : String) (snapshot : Snapshot) : Prop
    extends snapshot.Belongs file where
  finite : ∀ chunk ∈ snapshot.version.chunks, chunk.confidence.isFinite = true

/-- Chunks of a merge have finite confidences if the survivors have. -/
theorem Merge.isFinite_merge {policy : Policy} {survivors : List Chunk} {job : Job}
    {drafts : List Draft} {invalidated : List Invalidated} {lineage : Lineage}
    {changes : List LineChange} (old : ∀ chunk ∈ survivors, chunk.confidence.isFinite = true) :
    ∀ chunk ∈ (merge policy survivors (job.freshChunks drafts) invalidated lineage changes).chunks,
      chunk.confidence.isFinite = true := by
  intro chunk member
  rcases mem_merge member with survivor | ⟨construct, among, same⟩
  · exact old chunk survivor
  · obtain ⟨draft, _, contentHash, _, rfl⟩ := Job.mem_freshChunks.mp among
    have confidence : chunk.withoutId.confidence = _ := congrArg Chunk.confidence same
    change chunk.withoutId.confidence.isFinite = true
    rw [confidence]
    exact Confidence.isFinite_score _ _

/-- A survivor has the confidence that it had before. -/
theorem Resolution.Windowed.isFinite_survivors {isBoundary : Option String → String → Bool}
    {version : Version} {changes : List LineChange} {text : LineIndex} {windows : List LineRange}
    {swallowed : List Chunk} {resolution : Resolution}
    (windowed : Windowed isBoundary version changes text windows swallowed resolution)
    (finite : ∀ chunk ∈ version.chunks, chunk.confidence.isFinite = true) :
    ∀ chunk ∈ resolution.survivors, chunk.confidence.isFinite = true := by
  intro chunk member
  obtain ⟨prior, untouched, rfl⟩ := List.mem_map.mp (windowed.settled.sublist.subset member)
  exact finite prior (List.mem_of_mem_filter untouched)

namespace Engine

variable {engine : Engine}

theorem Answered.belongs {job : Job} {prior : Option Snapshot} {outcome : Outcome}
    (answered : Answered engine job prior (.ok outcome))
    (belongs : ∀ snapshot ∈ prior, snapshot.Belongs job.file) :
    Snapshot.Belongs job.file ⟨outcome.version, job.text⟩ ∧
      outcome.version.language = job.language := by
  generalize given : Except.ok outcome = result at answered
  cases answered with
  | @unchanged snapshot known sameLanguage sameText =>
    cases given
    rw [← sameText]
    exact ⟨belongs snapshot known, sameLanguage⟩
  | refused refused => cases given
  | full changes reason processed =>
    obtain ⟨same, valid⟩ := Job.checked_valid given.symm
    rw [same]
    exact ⟨⟨rfl, rfl, valid⟩, rfl⟩
  | windows known sameLanguage clean detected windowed foundIn =>
    obtain ⟨same, valid⟩ := Job.checked_valid given.symm
    rw [same]
    exact ⟨⟨rfl, rfl, valid⟩, rfl⟩

theorem Answered.isFinite {job : Job} {prior : Option Snapshot} {outcome : Outcome}
    (answered : Answered engine job prior (.ok outcome))
    (finite : ∀ snapshot ∈ prior, ∀ chunk ∈ snapshot.version.chunks,
      chunk.confidence.isFinite = true) :
    ∀ chunk ∈ outcome.version.chunks, chunk.confidence.isFinite = true := by
  generalize given : Except.ok outcome = result at answered
  cases answered with
  | @unchanged snapshot known sameLanguage sameText =>
    cases given
    exact finite snapshot known
  | refused refused => cases given
  | full changes reason processed =>
    rw [(Job.checked_valid given.symm).1]
    exact Merge.isFinite_merge fun chunk member => absurd member List.not_mem_nil
  | @windows snapshot changes resolution windows swallowed found known sameLanguage clean detected
      windowed foundIn =>
    rw [(Job.checked_valid given.symm).1]
    exact Merge.isFinite_merge (windowed.isFinite_survivors (finite snapshot known))

/-- The version of an answer belongs to the file and the text of the call. -/
theorem belongs_answer {file : String} {prior : Option Snapshot} {call : Call} {outcome : Outcome}
    (given : engine.answer file prior call = .ok outcome)
    (belongs : ∀ snapshot ∈ prior, snapshot.Belongs file) :
    Snapshot.Belongs file ⟨outcome.version, call.text⟩ ∧
      outcome.version.language = call.language := by
  rcases engine.answer_cases file prior call with ⟨_, failed⟩ | ⟨processor, _, answered⟩
  · rw [failed] at given
    cases given
  · rw [given] at answered
    exact answered.belongs belongs

theorem sound_answer {file : String} {prior : Option Snapshot} {call : Call} {outcome : Outcome}
    (given : engine.answer file prior call = .ok outcome)
    (sound : ∀ snapshot ∈ prior, snapshot.Sound file) :
    Snapshot.Sound file ⟨outcome.version, call.text⟩ := by
  refine ⟨(belongs_answer given fun snapshot known => (sound snapshot known).toBelongs).1, ?_⟩
  rcases engine.answer_cases file prior call with ⟨_, failed⟩ | ⟨processor, _, answered⟩
  · rw [failed] at given
    cases given
  · rw [given] at answered
    exact answered.isFinite fun snapshot known => (sound snapshot known).finite

/-- A call on one file leaves the snapshot of another file alone, or drops it. -/
theorem peek?_perform_of_ne (engine : Engine) (request : Request) (store : Store)
    (input : SourceInput) {name : String} (different : name ≠ input.file) :
    (engine.perform request store input).2.peek? name = store.peek? name ∨
      (engine.perform request store input).2.peek? name = none := by
  have kept : (store.abandoned input.file).peek? name = store.peek? name ∨
      (store.abandoned input.file).peek? name = none :=
    Or.inl (store.peek?_abandoned_of_ne different)
  unfold perform
  rw [transact_run]
  cases engine.registry.get input.language with
  | error error => exact Or.inl rfl
  | ok processor =>
    simp only
    split
    · exact kept
    · split
      · exact kept
      · split
        · exact kept
        · exact store.peek?_publish_of_ne different _

end Engine

/-- Every snapshot in the store is a good one of its file. -/
def Store.All (good : String → Snapshot → Prop) (store : Store) : Prop :=
  ∀ key, ∀ snapshot ∈ store.peek? key, good key snapshot

theorem Store.all_empty (good : String → Snapshot → Prop) (capacity : Option Nat) :
    (Store.empty capacity).All good := by
  rintro key snapshot ⟨⟩

theorem Store.All.publish {good : String → Snapshot → Prop} {store : Store} (all : store.All good)
    {key : String} {snapshot : Snapshot} (new : good key snapshot) :
    (store.publish key snapshot).All good := by
  intro name
  by_cases same : name = key
  · rw [same, Store.peek?_publish]
    rintro _ ⟨⟩
    exact new
  · rcases store.peek?_publish_of_ne same snapshot with kept | gone
    · rw [kept]
      exact all name
    · rw [gone]
      rintro _ ⟨⟩

namespace Engine

variable (engine : Engine)

theorem sound_perform (request : Request) {store : Store} (sound : store.All Snapshot.Sound)
    (input : SourceInput) : (engine.perform request store input).2.All Snapshot.Sound := by
  intro key
  by_cases same : key = input.file
  · obtain ⟨_, left⟩ := engine.perform_eq input.file store ⟨request, input.text, input.language⟩
    rw [same, left]
    cases given : engine.answer input.file (store.peek? input.file)
        ⟨request, input.text, input.language⟩ with
    | error error => exact sound input.file
    | ok outcome =>
      rw [← given, remaining_of_ok given]
      rintro snapshot ⟨⟩
      exact sound_answer given (sound input.file)
  · rcases engine.peek?_perform_of_ne request store input same with kept | gone
    · rw [kept]
      exact sound key
    · rw [gone]
      rintro snapshot ⟨⟩

/-- The store after calls on any files. -/
def after (store : Store) (calls : List (Request × SourceInput)) : Store :=
  calls.foldl (fun store call => (engine.perform call.1 store call.2).2) store

theorem sound_after {store : Store} (sound : store.All Snapshot.Sound)
    (calls : List (Request × SourceInput)) : (engine.after store calls).All Snapshot.Sound := by
  induction calls generalizing store with
  | nil => exact sound
  | cons call rest inductionHypothesis =>
    exact inductionHypothesis (engine.sound_perform call.1 sound call.2)

end Engine

/-! ### Texts of versions -/

open Json

/-- The numbers of a version are those of the data form. -/
structure Version.Sized (version : Version) : Prop where
  lineCount : version.lineCount < Word.limit
  lineage : version.lineage.Sized

/-- The decimal texts of the numbers in a chunk are read as these numbers. The metadata stand inside
of four levels of the version. -/
structure Chunk.Legible (chunk : Chunk) : Prop where
  confidence : ∃ numeral,
    readNumber (chunk.confidence.dataText Binary.singleRange).toList = some (numeral, []) ∧
      (Json.number numeral).asSingle? = some chunk.confidence
  metadata : ∀ entry ∈ chunk.metadata.entries,
    entry.2.isLegible (nestingLimit - 4) .all = true ∧ entry.2.reread.canonical = entry.2

/-- A chunk about which nothing is known but its kind and name. -/
theorem Chunk.legible_of_usual {chunk : Chunk}
    (confidence : chunk.confidence = usualConfidence)
    (plain : chunk.metadata.entries = []) : chunk.Legible := by
  refine ⟨?_, ?_⟩
  · rw [confidence]
    exact ⟨(Numeral.single usualConfidence).reread, by decide +kernel, by decide +kernel⟩
  · rw [plain]
    intro entry member
    cases member

theorem keepsCounts_reread : KeepsCounts Numeral.reread := by
  intro count fits
  have text : (Numeral.integer count).text = toString count := rfl
  rw [Numeral.reread, text, readNumber_count fits]
  rfl

theorem Json.isLegible_nat {count : Nat} (fits : count < Word.limit) (depth : Nat)
    (shape : Shape) : (Json.nat count).isLegible depth shape = true := by
  refine decide_eq_true ?_
  rw [keepsCounts_reread count fits]
  exact readNumber_count fits

theorem Json.legibleItems_of_forall {depth : Nat} {shape : Shape} (steady : shape.tail = shape)
    {items : List Json} (legible : ∀ item ∈ items, item.isLegible depth shape.head = true) :
    legibleItems depth shape items = true := by
  induction items with
  | nil => rfl
  | cons item rest inductionHypothesis =>
    rw [legibleItems, Bool.and_eq_true, steady]
    exact ⟨legible item List.mem_cons_self,
      inductionHypothesis fun other member => legible other (List.mem_cons_of_mem _ member)⟩

theorem Json.legibleMembers_of_forall {depth : Nat} {shape : Shape}
    {members : List (String × Json)}
    (legible : ∀ member ∈ members, ∃ inner, shape.member? member.1 = some inner ∧
      member.2.isLegible depth inner = true) :
    legibleMembers depth shape members = true := by
  induction members with
  | nil => rfl
  | cons member rest inductionHypothesis =>
    exact legibleMembers_cons.mpr ⟨legible member List.mem_cons_self,
      inductionHypothesis fun other listed => legible other (List.mem_cons_of_mem _ listed)⟩

theorem Span.isLegible_toJson {span : Span} {depth : Nat} (first : span.startLine < Word.limit)
    (last : span.endLine < Word.limit) : span.toJson.isLegible (depth + 1) Span.shape = true := by
  refine legibleMembers_of_forall ?_
  simp only [List.mem_cons, List.not_mem_nil, or_false, forall_eq_or_imp, forall_eq]
  exact ⟨⟨_, rfl, isLegible_nat first _ _⟩, ⟨_, rfl, isLegible_nat last _ _⟩⟩

theorem Tombstone.isLegible_toJson {tombstone : Tombstone} {depth : Nat}
    (fits : tombstone.line < Word.limit) :
    tombstone.toJson.isLegible (depth + 1) Tombstone.shape = true := by
  refine legibleMembers_of_forall ?_
  simp only [List.mem_cons, List.not_mem_nil, or_false, forall_eq_or_imp, forall_eq]
  exact ⟨⟨_, rfl, rfl⟩, ⟨_, rfl, rfl⟩, ⟨_, rfl, rfl⟩, ⟨_, rfl, isLegible_nat fits _ _⟩⟩

theorem Lineage.isLegible_toJson {lineage : Lineage} {depth : Nat} (sized : lineage.Sized) :
    lineage.toJson.isLegible (depth + 3) Lineage.shape = true := by
  refine legibleMembers_of_forall ?_
  simp only [List.mem_cons, List.not_mem_nil, or_false, forall_eq_or_imp, forall_eq]
  refine ⟨⟨_, rfl, legibleMembers_of_forall ?_⟩, ⟨_, rfl, legibleItems_of_forall rfl ?_⟩⟩
  · intro member listed
    obtain ⟨entry, among, rfl⟩ := List.mem_map.mp listed
    have word : entry.2 < Word.limit := Nat.lt_trans (sized.ordinals entry among) (by decide)
    exact ⟨.all, rfl, isLegible_nat word _ _⟩
  · intro item listed
    obtain ⟨tombstone, among, rfl⟩ := List.mem_map.mp listed
    exact Tombstone.isLegible_toJson (sized.lines tombstone among)

/-- A finite confidence is written as its decimal text. -/
theorem Chunk.single_confidence {chunk : Chunk} (finite : chunk.confidence.isFinite = true) :
    Json.single chunk.confidence = .number (.single chunk.confidence) ∧
      (Numeral.single chunk.confidence).text = chunk.confidence.dataText Binary.singleRange := by
  rw [Json.single, Numeral.text, if_pos finite, if_pos finite]
  exact ⟨rfl, rfl⟩

theorem Chunk.Legible.reread_confidence {chunk : Chunk} (legible : chunk.Legible)
    (finite : chunk.confidence.isFinite = true) :
    readNumber (Numeral.single chunk.confidence).text.toList =
        some ((Numeral.single chunk.confidence).reread, []) ∧
      (Json.number (Numeral.single chunk.confidence).reread).asSingle? = some chunk.confidence := by
  obtain ⟨numeral, reads, same⟩ := legible.confidence
  obtain ⟨_, text⟩ := single_confidence finite
  rw [Numeral.reread, text, reads]
  exact ⟨rfl, same⟩

theorem Chunk.isLegible_toJson {chunk : Chunk} (legible : chunk.Legible)
    (finite : chunk.confidence.isFinite = true) (first : chunk.span.startLine < Word.limit)
    (last : chunk.span.endLine < Word.limit) :
    chunk.toJson.isLegible (nestingLimit - 2) .all = true := by
  have confidence : (Json.single chunk.confidence).isLegible (nestingLimit - 3) .all = true := by
    rw [(single_confidence finite).1]
    exact decide_eq_true (legible.reread_confidence finite).1
  refine legibleMembers_of_forall ?_
  simp only [List.mem_cons, List.not_mem_nil, or_false, forall_eq_or_imp, forall_eq]
  exact ⟨⟨_, rfl, rfl⟩, ⟨_, rfl, rfl⟩, ⟨_, rfl, rfl⟩, ⟨_, rfl, isLegible_nat first _ _⟩,
    ⟨_, rfl, isLegible_nat last _ _⟩, ⟨_, rfl, rfl⟩, ⟨_, rfl, confidence⟩,
    ⟨_, rfl, legibleMembers_of_forall fun entry among =>
      ⟨.all, rfl, (legible.metadata entry among).1⟩⟩⟩

/-- All counts of a version fit in words. -/
structure Version.Worded (version : Version) : Prop extends version.Sized where
  chunks : ∀ chunk ∈ version.chunks,
    chunk.span.startLine < Word.limit ∧ chunk.span.endLine < Word.limit
  outline : ∀ node ∈ version.outline, node.startLine < Word.limit ∧ node.endLine < Word.limit

namespace Version.Worded

variable {version : Version}

theorem isLegible_toJson (worded : version.Worded)
    (finite : ∀ chunk ∈ version.chunks, chunk.confidence.isFinite = true)
    (legible : ∀ chunk ∈ version.chunks, chunk.Legible) :
    version.toJson.isLegible nestingLimit Version.shape = true := by
  refine legibleMembers_of_forall ?_
  simp only [List.mem_cons, List.not_mem_nil, or_false, forall_eq_or_imp, forall_eq]
  refine ⟨⟨_, rfl, rfl⟩, ⟨_, rfl, rfl⟩, ⟨_, rfl, rfl⟩, ⟨_, rfl, isLegible_nat worded.lineCount _ _⟩,
    ⟨_, rfl, legibleItems_of_forall rfl ?_⟩, ⟨_, rfl, rfl⟩,
    ⟨_, rfl, Lineage.isLegible_toJson worded.lineage⟩, ⟨_, rfl, legibleItems_of_forall rfl ?_⟩⟩
  · intro item listed
    obtain ⟨chunk, among, rfl⟩ := List.mem_map.mp listed
    obtain ⟨first, last⟩ := worded.chunks chunk among
    exact Chunk.isLegible_toJson (legible chunk among) (finite chunk among) first last
  · intro item listed
    obtain ⟨node, among, rfl⟩ := List.mem_map.mp listed
    obtain ⟨first, last⟩ := worded.outline node among
    exact Span.isLegible_toJson first last

theorem keptBy_reread (worded : version.Worded)
    (finite : ∀ chunk ∈ version.chunks, chunk.confidence.isFinite = true)
    (legible : ∀ chunk ∈ version.chunks, chunk.Legible) :
    version.KeptBy Numeral.reread := by
  refine ⟨worded.lineCount, fun chunk member => ?_, worded.lineage, worded.outline⟩
  obtain ⟨first, last⟩ := worded.chunks chunk member
  refine ⟨first, last, ?_, fun entry among => ((legible chunk member).metadata entry among).2⟩
  rw [(Chunk.single_confidence (finite chunk member)).1]
  exact ((legible chunk member).reread_confidence (finite chunk member)).2

/-- A version is read from its text. -/
theorem ofText?_toText (worded : version.Worded)
    (finite : ∀ chunk ∈ version.chunks, chunk.confidence.isFinite = true)
    (legible : ∀ chunk ∈ version.chunks, chunk.Legible) :
    Version.ofText? version.toText = some version := by
  rw [Version.ofText?, Version.toText, parseIn?_compact (worded.isLegible_toJson finite legible),
    Option.bind_some]
  exact Version.ofJson?_mapNumbers keepsCounts_reread (worded.keptBy_reread finite legible)

end Version.Worded

namespace Snapshot.Sound

variable {file : String} {snapshot : Snapshot}

/-- Lines inside of the text are counted by words if the lines of the text are. -/
theorem worded (sound : snapshot.Sound file) (sized : snapshot.version.Sized) :
    snapshot.version.Worded := by
  have limit := sized.lineCount
  refine ⟨sized, fun chunk member => ?_, fun node member => ?_⟩
  · obtain ⟨_, proper, inside⟩ := sound.valid.fits chunk member
    omega
  · obtain ⟨_, proper, inside⟩ := sound.valid.nodesFit node member
    omega

theorem ofText?_toText (sound : snapshot.Sound file) (sized : snapshot.version.Sized)
    (legible : ∀ chunk ∈ snapshot.version.chunks, chunk.Legible) :
    Version.ofText? snapshot.version.toText = some snapshot.version :=
  (sound.worded sized).ofText?_toText sound.finite legible

end Snapshot.Sound

/-! ### Archives -/

namespace Archive

/-- Chunks with distinct ids and confidences that are numbers can be entered. -/
theorem misfit?_eq_none {seen : List String} {chunks : List Chunk}
    (distinct : (chunks.map Chunk.id).Nodup) (unseen : ∀ chunk ∈ chunks, chunk.id ∉ seen)
    (numbers : ∀ chunk ∈ chunks, chunk.confidence.isNaN = false) : misfit? seen chunks = none := by
  induction chunks generalizing seen with
  | nil => rfl
  | cons chunk rest inductionHypothesis =>
    rw [List.map_cons, List.nodup_cons] at distinct
    have new : seen.contains chunk.id = false := by simpa using unseen chunk List.mem_cons_self
    rw [misfit?, new, numbers chunk List.mem_cons_self]
    refine inductionHypothesis distinct.2 (fun other member => ?_)
      fun other member => numbers other (List.mem_cons_of_mem _ member)
    rw [List.mem_cons, not_or]
    exact ⟨fun same => distinct.1 (same ▸ List.mem_map_of_mem member),
      unseen other (List.mem_cons_of_mem _ member)⟩

/-- What an archive keeps of a snapshot. -/
def entry (snapshot : Snapshot) : Archived :=
  ⟨snapshot.version.toText, snapshot.text, snapshot.version.chunks⟩

/-- The archive with a snapshot in the place of its file. -/
def withSnapshot (archive : Archive) (snapshot : Snapshot) : Archive :=
  { archive with files := archive.files.insert snapshot.version.file (entry snapshot) }

theorem save_sound (archive : Archive) {file : String} {snapshot : Snapshot}
    (sound : snapshot.Sound file) :
    archive.save snapshot.version snapshot.text = .ok (archive.withSnapshot snapshot) := by
  have fits : misfit? [] snapshot.version.chunks = none :=
    misfit?_eq_none sound.valid.distinct (fun _ _ => List.not_mem_nil)
      fun chunk member => Confidence.not_isNaN_of_isFinite (sound.finite chunk member)
  rw [save, fits]
  rfl

end Archive

/-! ### Going on -/

namespace Engine

/-- Any store takes over a snapshot whose version is one of its text. -/
theorem hydrate_belongs (store : Store) {file : String} {snapshot : Snapshot}
    (belongs : snapshot.Belongs file) :
    hydrate store snapshot.version snapshot.text = .ok (store.publish file snapshot) := by
  rw [hydrate, if_neg (not_not_intro belongs.digest), belongs.valid.validate, belongs.file]
  rfl

variable (engine : Engine)

/-- Runs on a file that start from the same snapshot give the same answers. -/
theorem serve_congr (file : String) {first second : Store}
    (same : first.peek? file = second.peek? file) (calls : List Call) :
    engine.serve file first calls = engine.serve file second calls := by
  induction calls generalizing first second with
  | nil => rfl
  | cons call rest inductionHypothesis =>
    obtain ⟨afterFirst, servedFirst, leftFirst⟩ := engine.serve_cons file first call rest
    obtain ⟨afterSecond, servedSecond, leftSecond⟩ := engine.serve_cons file second call rest
    rw [servedFirst, servedSecond, same]
    refine congrArg _ (inductionHypothesis ?_)
    rw [leftFirst, leftSecond, same]

/-- Whatever calls on whatever files led to a snapshot, it can be archived and comes back the same,
and an engine that takes it over from there answers further calls on the file like the engine that
it comes from. -/
theorem persisted_resumes (capacity : Option Nat) (calls : List (Request × SourceInput))
    (archive : Archive) {file : String} {snapshot : Snapshot}
    (current : (engine.after (Store.empty capacity) calls).peek? file = some snapshot)
    (sized : snapshot.version.Sized)
    (legible : ∀ chunk ∈ snapshot.version.chunks, chunk.Legible) :
    ∃ saved resumed, archive.save snapshot.version snapshot.text = .ok saved ∧
      saved.load? file = .ok (some snapshot) ∧
      hydrate (Store.empty engine.settings.cacheCapacity) snapshot.version snapshot.text =
        .ok resumed ∧
      resumed.peek? file = some snapshot ∧
      ∀ further, engine.serve file resumed further =
        engine.serve file (engine.after (Store.empty capacity) calls) further := by
  have sound : snapshot.Sound file :=
    engine.sound_after (Store.all_empty _ capacity) calls file snapshot current
  have peeked := (Store.empty engine.settings.cacheCapacity).peek?_publish file snapshot
  refine ⟨_, _, archive.save_sound sound, ?_, hydrate_belongs _ sound.toBelongs, peeked,
    engine.serve_congr file (peeked.trans current.symm)⟩
  rw [Archive.load?, Archive.withSnapshot, sound.file, Dictionary.get?_insert_self]
  simp only [Archive.entry, Archived.snapshot, sound.ofText?_toText sized legible]
  rfl

/-- There is room for one file. The second file loses its only line and gets another one, which is
given a new id, while the old one is remembered. -/
theorem persisted_resumes_linewise :
    let engine := { linewise (fun _ => .function) fun _ => "line" with
      settings := Settings.forUseCase .batchIngest }
    let store := engine.after (.empty (some 1)) [(.auto, ⟨"first", "a\n", .python⟩),
      (.auto, ⟨"second", "a\n", .python⟩), (.auto, ⟨"second", "", .python⟩),
      (.auto, ⟨"second", "b\n", .python⟩)]
    ∃ snapshot saved resumed, store.peek? "second" = some snapshot ∧
      (snapshot.version.lineage.tombstones.map Tombstone.id = ["second::function::line"] ∧
        snapshot.version.ids = ["second::function::line#1"]) ∧
      (Archive.save {} snapshot.version snapshot.text = .ok saved ∧
        saved.load? "second" = .ok (some snapshot) ∧
        hydrate (Store.empty engine.settings.cacheCapacity) snapshot.version snapshot.text =
          .ok resumed ∧
        resumed.peek? "second" = some snapshot ∧
        ∀ further, engine.serve "second" resumed further =
          engine.serve "second" store further) := by
  intro engine store
  have known : (store.peek? "second").isSome = true := by decide +kernel
  have facts : ∀ snapshot ∈ store.peek? "second",
      (snapshot.version.lineage.tombstones.map Tombstone.id = ["second::function::line"] ∧
        snapshot.version.ids = ["second::function::line#1"]) ∧
      (snapshot.version.lineCount < Word.limit ∧
        (∀ entry ∈ snapshot.version.lineage.ordinals.entries, entry.2 < ChunkId.ordinalLimit) ∧
        ∀ tombstone ∈ snapshot.version.lineage.tombstones, tombstone.line < Word.limit) ∧
      ∀ chunk ∈ snapshot.version.chunks,
        chunk.confidence = usualConfidence ∧ chunk.metadata.entries.length = 0 := by
    decide +kernel
  obtain ⟨snapshot, current⟩ := Option.isSome_iff_exists.mp known
  obtain ⟨ids, ⟨lineCount, ordinals, lines⟩, chunks⟩ := facts snapshot current
  obtain ⟨saved, resumed, goesOn⟩ := engine.persisted_resumes (some 1) _ {} current
    ⟨lineCount, ordinals, lines⟩ fun chunk member =>
      Chunk.legible_of_usual (chunks chunk member).1
        (List.eq_nil_of_length_eq_zero (chunks chunk member).2)
  exact ⟨snapshot, saved, resumed, current, ids, goesOn⟩

end Engine

end Chunking
