/-
Where numbers run out. Numbers have to stay below a limit, and in a run on a new file
every sum does as long as the number that a name brings along and the ids that are
given out do not reach it together. There is no more room than that: if a name brings
along too great a number for so many ids, two parses are enough for a sum to reach the
limit. The first one finds a construct of that name, whose id is later read as if the
number of the name had been given out; the second one finds all the others.
-/

import Chunking.Proofs.CallMerges
import Chunking.Proofs.IdClashes
import Chunking.Proofs.Spending

namespace Chunking

namespace Engine

/-! ### What a run has given out -/

/-- The snapshot has ids that were given out, and so do its remembered ones. -/
def Recorded (file : String) (named : Kind → String → Prop) (used : List String)
    (prior : Option Snapshot) : Prop :=
  ∀ snapshot ∈ prior, snapshot.version.lineage.Records file named used
    (snapshot.version.chunks.map Chunk.bearer
      ++ snapshot.version.lineage.tombstones.map Tombstone.bearer)

variable {engine : Engine} {file : String} {named : Kind → String → Prop} {used : List String}
  {prior : Option Snapshot}

theorem Supplied.recorded {job : Job} {input : Merge.Input} (supplied : Supplied job prior input)
    (proper : job.processor.Names named) (recorded : Recorded job.file named used prior) :
    input.Recorded named used := by
  obtain ⟨sameFile, lineage, bearers, fresh⟩ := supplied
  refine ⟨?_, fresh named proper⟩
  rw [sameFile, lineage]
  cases whole : inherited job prior with
  | none =>
    rw [whole] at bearers
    have nobody := bearers.symm.eq_nil
    rw [nobody]
    exact (Lineage.Records.empty job.file named).used_mono (List.nil_subset _)
  | some version =>
    rw [whole] at bearers
    obtain ⟨snapshot, kept, rfl⟩ := Option.mem_map.mp (Option.mem_def.mpr whole)
    have records := recorded snapshot (Option.mem_filter_iff.mp kept).1
    exact records.subset (bearers.symm.append_right _).subset

/-- The ids that are given out in a call. -/
def givenIn (engine : Engine) (file : String) (prior : Option Snapshot) (call : Call) :
    List String :=
  (engine.callInput? file prior call).elim [] fun input => input.outcome.allocated

section proper

variable (proper : ∀ language processor, engine.registry language = some processor →
  processor.Names named)

include proper

/-- What is merged in a call has ids that were given out before, and what the call leaves behind has
ids that were given out before or in it. -/
theorem Recorded.call (recorded : Recorded file named used prior) (call : Call) :
    (∀ input ∈ engine.callInput? file prior call, input.Recorded named used) ∧
      Recorded file named (engine.givenIn file prior call ++ used)
        (remaining prior call (engine.answer file prior call)) := by
  have grown : Recorded file named (engine.givenIn file prior call ++ used) prior :=
    fun snapshot known => (recorded snapshot known).used_mono (List.subset_append_right _ _)
  rcases engine.callInput?_cases file prior call with ⟨nothing, failed⟩ |
    ⟨processor, registered, concludes⟩
  · rw [nothing, failed]
    exact ⟨nofun, grown⟩
  · rw [givenIn] at grown ⊢
    generalize engine.callInput? file prior call = merged at concludes grown ⊢
    generalize answered : engine.answer file prior call = result at concludes ⊢
    cases concludes with
    | refused => exact ⟨nofun, grown⟩
    | unchanged known => exact ⟨nofun, grown⟩
    | @merged input outline recovered report supplied allocated =>
      have ready := supplied.recorded (proper _ _ registered) recorded
      refine ⟨fun other same => Option.mem_some.mp same ▸ ready, ?_⟩
      cases checked : Job.checked ⟨file, call.text, call.language, processor⟩
          (Job.version _ input.outcome outline recovered) report with
      | error error => exact grown
      | ok outcome =>
        rw [checked] at answered
        rw [← answered, remaining_of_ok answered, Job.checked_eq_ok checked]
        rintro snapshot ⟨⟩
        have records := ready.outcome
        rw [supplied.file] at records
        exact records

/-- In a run, no sum is further than the ids that were given out from the number that a name brings
along. -/
theorem sum_le_of_mem_merges {store : Store} {calls : List Call}
    (recorded : Recorded file named used (store.peek? file)) {input : Merge.Input}
    (member : input ∈ engine.merges file store calls) {sum : String × Nat}
    (formed : sum ∈ input.sums) : ∃ kind name, named kind name ∧
      sum.2 ≤ ChunkId.carried name + (engine.given file store calls + used.length) := by
  induction calls generalizing store used with
  | nil => cases member
  | cons call rest inductionHypothesis =>
    obtain ⟨now, later⟩ := recorded.call proper call
    rw [← (engine.perform_eq file store call).2] at later
    have total : engine.given file store (call :: rest) =
        (engine.givenIn file (store.peek? file) call).length + engine.given file
          (engine.perform call.request store ⟨file, call.text, call.language⟩).2 rest := by
      rw [given, merges_cons, List.map_append, List.sum_append, givenIn, given]
      cases engine.callInput? file (store.peek? file) call <;> rfl
    rw [merges_cons] at member
    rcases List.mem_append.mp member with here | behind
    · rw [Option.mem_toList] at here
      obtain ⟨kind, name, suits, bound⟩ := (now input here).sum_le formed
      refine ⟨kind, name, suits, ?_⟩
      rw [givenIn, Option.mem_def.mp here] at total
      rw [List.length_append] at bound
      simp only [Option.elim_some] at total
      omega
    · obtain ⟨kind, name, suits, bound⟩ := inductionHypothesis later behind
      refine ⟨kind, name, suits, ?_⟩
      rw [List.length_append] at bound
      omega

end proper

end Engine

/-! ### Constructs of one name -/

/-- An id without a number is noted with the one that its name brings along. -/
theorem Lineage.carried_lt_observe {lineage : Lineage} {chunk : Chunk} {file : String}
    (positive : 0 < lineage.nextOrdinal chunk.key)
    (first : chunk.id = ChunkId.format file chunk.kind chunk.name 0) :
    ChunkId.carried chunk.name < (lineage.observe chunk).nextOrdinal chunk.key := by
  have raised := lineage.raised_observe chunk
  have reads : ChunkId.ordinal? chunk.id = ChunkId.ordinal? (ChunkId.displayName chunk.name) := by
    rw [first, ChunkId.ordinal?_format_zero]
  rw [← ChunkId.carried_displayName, ChunkId.carried, ← reads]
  cases found : ChunkId.ordinal? chunk.id with
  | none => exact Nat.lt_of_lt_of_le positive (raised.covers chunk.key)
  | some number =>
    have noted : (chunk.key, number + 1) ∈ noted chunk := by
      rw [Lineage.noted, found]
      exact List.mem_singleton_self _
    exact raised.le noted

namespace Merge

variable {policy : Policy} {kind : Kind} {name : String} {progress : Progress}

/-- Where no old id is to be had, every construct of a name is given an id and raises its number. -/
theorem foldl_step_of_nil {constructs : List FreshChunk}
    (alike : ∀ fresh ∈ constructs, fresh.draft.kind = kind ∧ fresh.draft.name = name)
    (unclaimed : progress.unclaimed = []) (forgotten : progress.lineage.tombstones = []) :
    (constructs.foldl (step policy) progress).allocated.length =
        progress.allocated.length + constructs.length ∧
      progress.lineage.nextOrdinal (ChunkId.key kind name) + constructs.length ≤
        (constructs.foldl (step policy) progress).lineage.nextOrdinal (ChunkId.key kind name) := by
  induction constructs generalizing progress with
  | nil => exact ⟨rfl, Nat.le_refl _⟩
  | cons fresh rest inductionHypothesis =>
    rw [List.forall_mem_cons] at alike
    obtain ⟨⟨kinds, names⟩, others⟩ := alike
    rcases step_cases policy progress fresh with ⟨_, _, listed, _⟩ | ⟨_, _, _, listed, _⟩ |
      ⟨before, id, after, ordinals, tombstones, given, stepped⟩
    · rw [unclaimed] at listed
      cases listed
    · rw [forgotten] at listed
      cases listed
    · rw [forgotten, List.sublist_nil] at tombstones
      rw [kinds, names, Lineage.allocate] at given
      obtain ⟨_, rfl⟩ := Prod.mk.inj given
      have raised := Lineage.le_firstFree (fun ordinal =>
        progress.live.contains (ChunkId.format policy.file kind name ordinal)) progress.live.length
        (before.nextOrdinal (ChunkId.key kind name))
      have same : before.nextOrdinal (ChunkId.key kind name) =
          progress.lineage.nextOrdinal (ChunkId.key kind name) := by
        rw [Lineage.nextOrdinal, ordinals]
        rfl
      obtain ⟨allocated, further⟩ := @inductionHypothesis (step policy progress fresh) others
        (by rw [stepped]; exact unclaimed) (by rw [stepped]; exact tombstones)
      rw [List.foldl_cons, List.length_cons]
      rw [stepped] at allocated further ⊢
      simp only [List.length_cons, Lineage.nextOrdinal_insert_self] at allocated further
      omega

namespace Input

variable {input : Input}
  (alike : ∀ construct ∈ FreshChunk.dropOverlapping input.fresh,
    construct.draft.kind = kind ∧ construct.draft.name = name)
  (alone : input.survivors = []) (forgotten : input.lineage.tombstones = [])

include alike alone forgotten

/-- In a new file every construct is given an id. -/
theorem length_allocated_of_new (new : input.invalidated = []) :
    input.outcome.allocated.length = (FreshChunk.dropOverlapping input.fresh).length := by
  have nobody : dropped input.survivors input.fresh input.invalidated = [] := by
    rw [alone, new]
    rfl
  have unclaimed : input.opened.unclaimed = [] := by
    rw [opened, opening, nobody, List.mergeSort_nil]
  have remembered : input.opened.lineage.tombstones = [] := by
    rw [opened, opening, Lineage.tombstones_foldl_observe, Lineage.shift, forgotten]
    rfl
  have counted : input.closed.allocated.length =
      input.opened.allocated.length + (FreshChunk.dropOverlapping input.fresh).length :=
    (foldl_step_of_nil alike unclaimed remembered).1
  rw [allocated_outcome, List.length_reverse]
  exact counted.trans (Nat.zero_add _)

/-- Where a single chunk is dropped, one construct takes over its id and all others are given ids.
The numbers go on from the one that is carried by the id of the dropped chunk. -/
theorem outcome_of_single {dead : Invalidated} (single : input.invalidated = [dead])
    (owner : dead.chunk.kind = kind ∧ dead.chunk.name = name)
    (first : dead.chunk.id = ChunkId.format input.policy.file kind name 0)
    (positive : 0 < input.lineage.nextOrdinal (ChunkId.key kind name)) {count : Nat}
    (length : (FreshChunk.dropOverlapping input.fresh).length = count + 1) :
    input.outcome.allocated.length = count ∧
      ChunkId.carried name + (count + 1) ≤
        input.outcome.lineage.nextOrdinal (ChunkId.key kind name) := by
  obtain ⟨rfl, rfl⟩ := owner
  obtain ⟨construct, rest, constructs⟩ := List.exists_cons_of_length_eq_add_one length
  rw [constructs, List.length_cons, Nat.add_right_cancel_iff] at length
  rw [constructs, List.forall_mem_cons] at alike
  have nobody : dropped input.survivors input.fresh input.invalidated = [dead] := by
    rw [alone, single]
    rfl
  have unclaimed : input.opened.unclaimed = [dead] := by
    rw [opened, opening, nobody, List.mergeSort_singleton]
  have lineage : input.opened.lineage =
      (input.lineage.shift input.changes).observe dead.chunk := by
    rw [opened, opening, nobody, alone]
    rfl
  have remembered : input.opened.lineage.tombstones = [] := by
    rw [lineage, Lineage.tombstones_observe, Lineage.shift, forgotten]
    rfl
  have carried : ChunkId.carried dead.chunk.name <
      input.opened.lineage.nextOrdinal (ChunkId.key dead.chunk.kind dead.chunk.name) := by
    rw [lineage]
    exact Lineage.carried_lt_observe positive first
  have sameKey : dead.chunk.key = construct.key := by
    rw [FreshChunk.key, alike.1.1, alike.1.2]
    rfl
  obtain ⟨nothing, kept, none⟩ := step_of_single input.policy unclaimed sameKey
  obtain ⟨allocated, further⟩ := @foldl_step_of_nil input.policy _ _ _ _ alike.2 nothing
    (kept ▸ remembered)
  have closed : input.closed = rest.foldl (step input.policy)
      (step input.policy input.opened construct) := by
    rw [Input.closed, closing, constructs, List.foldl_cons, opened]
  have covers : input.outcome.lineage.Covers input.closed.lineage :=
    (Lineage.raised_foldl_bury input.closed.buried input.closed.lineage).covers
  rw [← closed, kept] at further
  rw [← closed, none] at allocated
  constructor
  · rw [allocated_outcome, List.length_reverse, ← length]
    exact allocated.trans (Nat.zero_add _)
  · have last := covers (ChunkId.key dead.chunk.kind dead.chunk.name)
    omega

end Input

end Merge

/-! ### Runs that reach the limit -/

namespace Engine

section reaching

variable (kind : Kind) (name : String)

theorem twoNames_dropOverlapping {text : String} {extraction : Extraction}
    (fit : ∀ draft ∈ extraction.drafts, draft.span.Fits (LineIndex.ofText text).size)
    (row : extraction.drafts.Pairwise fun left right => left.span.Before right.span)
    (alike : ∀ draft ∈ extraction.drafts,
      draft.kind = kind ∧ draft.name = if text = "x" then name else name)
    (prior : Option Version) (changes : List LineChange) :
    let input := (twoNames kind name name).fullInput (twoNamesJob "" kind name name .python text)
      prior changes extraction
    (FreshChunk.dropOverlapping input.fresh).length = extraction.drafts.length ∧
      ∀ construct ∈ FreshChunk.dropOverlapping input.fresh,
        construct.draft.kind = kind ∧ construct.draft.name = name := by
  intro input
  have all : FreshChunk.dropOverlapping input.fresh = input.fresh :=
    Job.dropOverlapping_freshChunks fit row
  rw [ite_self] at alike
  rw [all]
  refine ⟨?_, freshChunks_alike (twoNamesJob "" kind name name .python text) alike⟩
  rw [← List.length_map FreshChunk.draft]
  exact congrArg List.length (Job.map_draft_freshChunks fit)

/-- The first parse gives out one id, which is the first one of its name. -/
theorem twoNames_firstInput : ∃ input outcome,
    (twoNames kind name name).callInput? "" none ⟨.full, "x", .python⟩ = some input ∧
      input.lineage = {} ∧ input.outcome.allocated.length = 1 ∧
      (twoNames kind name name).answer "" none ⟨.full, "x", .python⟩ = .ok outcome ∧
      First "" kind name outcome.version ∧ outcome.version.language = .python := by
  obtain ⟨extraction, processed, length, fit, row, alike⟩ :=
    Processor.twoNames_drafts .python kind name name "x"
  obtain ⟨version, report, answered, _, first, sameLanguage⟩ :=
    twoNames_first "" kind name name .python
  obtain ⟨changes, merged⟩ := @callInput?_full (twoNames kind name name)
    (twoNamesJob "" kind name name .python "x") extraction rfl processed none
  obtain ⟨constructs, named⟩ := twoNames_dropOverlapping kind name fit row alike none changes
  exact ⟨_, _, merged, rfl, (Merge.Input.length_allocated_of_new named rfl rfl rfl).trans
    (constructs.trans length), answered, first, sameLanguage⟩

/-- The second parse finds as many constructs of the name as wanted. One of them takes over the old
id, the others are given ids above the number of the name. -/
theorem twoNames_secondInput {version : Version} (first : First "" kind name version)
    (sameLanguage : version.language = .python) (count : Nat) : ∃ input,
    (twoNames kind name name).callInput? "" (some ⟨version, "x"⟩)
        ⟨.full, Text.lowered count "y", .python⟩ = some input ∧
      input.lineage = version.lineage ∧ input.outcome.allocated.length = count ∧
      ChunkId.carried name + (count + 1) ≤
        input.outcome.lineage.nextOrdinal (ChunkId.key kind name) := by
  obtain ⟨extraction, processed, length, fit, row, alike⟩ :=
    Processor.twoNames_drafts .python kind name name (Text.lowered count "y")
  rw [Text.size_lowered, Nat.add_comm] at length
  obtain ⟨changes, merged⟩ := @callInput?_full (twoNames kind name name)
    (twoNamesJob "" kind name name .python (Text.lowered count "y")) extraction rfl processed
    (some ⟨version, "x"⟩)
  have inherits : inherited (twoNamesJob "" kind name name .python (Text.lowered count "y"))
      (some ⟨version, "x"⟩) = some version := inherited_of_language sameLanguage
  rw [inherits] at merged
  obtain ⟨constructs, named⟩ :=
    twoNames_dropOverlapping kind name fit row alike (some version) changes
  obtain ⟨chunk, chunks, id⟩ := List.map_eq_singleton_iff.mp first.ids
  have owner := first.alike chunk (chunks ▸ List.mem_singleton_self chunk)
  have single : version.chunks.map (Invalidated.ofPrior changes) = [.ofPrior changes chunk] := by
    rw [chunks, List.map_singleton]
  exact ⟨_, merged, rfl, Merge.Input.outcome_of_single named rfl first.forgotten single owner id
    (first.next ▸ Nat.one_pos) (constructs.trans length)⟩

/-- Two parses in which a sum reaches the limit. -/
def reachingCalls (name : String) : List Call :=
  [⟨.full, "x", .python⟩,
    ⟨.full, Text.lowered (ChunkId.ordinalLimit - 1 - ChunkId.carried name) "y", .python⟩]

/-- No more ids are given out in them than are left above the number of the name. -/
theorem twoNames_reaches :
    (twoNames kind name name).given "" {} (reachingCalls name) =
        ChunkId.ordinalLimit - ChunkId.carried name ∧
      ∃ input ∈ (twoNames kind name name).merges "" {} (reachingCalls name),
        ∃ sum ∈ input.sums, ChunkId.ordinalLimit ≤ sum.2 := by
  obtain ⟨input, outcome, merged, new, one, answered, first, sameLanguage⟩ :=
    twoNames_firstInput kind name
  obtain ⟨input', merged', known, others, great⟩ := twoNames_secondInput kind name first
    sameLanguage (ChunkId.ordinalLimit - 1 - ChunkId.carried name)
  have run : (twoNames kind name name).merges "" {} (reachingCalls name) = [input, input'] := by
    have nothing : ({} : Store).peek? "" = none := rfl
    have left := ((twoNames kind name name).perform_eq "" {} ⟨.full, "x", .python⟩).2.trans
      (remaining_of_ok answered)
    rw [reachingCalls, merges_cons, merges_cons, nothing, merged, left, merged']
    rfl
  have room := ChunkId.carried_lt name
  constructor
  · rw [given, run]
    simp only [List.map_cons, List.map_nil, List.sum_cons, List.sum_nil, one, others]
    omega
  · rw [run]
    by_contra small
    simp only [List.mem_cons, List.not_mem_nil, or_false, exists_eq_or_imp, exists_eq_left, not_or,
      not_exists, not_and, Nat.not_le] at small
    -- The numbers would stay below the limit in both merges, but the last one has reached it.
    have once : input.outcome.lineage.nextOrdinal (ChunkId.key kind name) < ChunkId.ordinalLimit :=
      Merge.Input.nextOrdinal_lt (new ▸ (by decide : 0 < ChunkId.ordinalLimit)) small.1
    rw [← (version_of_callInput? merged answered).2.1, ← known] at once
    have twice := Merge.Input.nextOrdinal_lt once small.2
    omega

end reaching

/-- In runs on a new file with processors that give names of a certain sort, and with at most so
many ids given out, all sums stay below the limit, exactly if the number that a name brings along
never reaches it together with so many ids. -/
theorem sums_lt_iff_carried_add_lt (named : Kind → String → Prop) (count : Nat) :
    (∀ engine : Engine, (∀ language processor, engine.registry language = some processor →
        processor.Names named) →
      ∀ file store, store.peek? file = none → ∀ calls, engine.given file store calls ≤ count →
        ∀ input ∈ engine.merges file store calls, ∀ sum ∈ input.sums,
          sum.2 < ChunkId.ordinalLimit) ↔
      ∀ kind name, named kind name → ChunkId.carried name + count < ChunkId.ordinalLimit := by
  constructor
  · intro always kind name suits
    by_contra reached
    obtain ⟨few, input, member, sum, formed, great⟩ := twoNames_reaches kind name
    have proper : ∀ language processor,
        (twoNames kind name name).registry language = some processor → processor.Names named := by
      rintro language _ ⟨⟩
      exact Processor.twoNames_names suits suits
    refine Nat.not_lt_of_le great
      (always (twoNames kind name name) proper "" {} rfl (reachingCalls name) ?_ input member sum
        formed)
    omega
  · intro room engine proper file store new calls few input member sum formed
    have start : Recorded file named [] (store.peek? file) := by
      rw [new]
      exact nofun
    obtain ⟨kind, name, suits, bound⟩ := sum_le_of_mem_merges proper start member formed
    have below := room kind name suits
    rw [List.length_nil] at bound
    omega

end Engine

end Chunking
