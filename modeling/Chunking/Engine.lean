/-
The engine. It brings the version of a file up to date with a new text: it finds
the changed lines, decides which chunks survive, has the rest parsed again in
windows, and merges the two. Whenever a step cannot be trusted it parses the
whole text instead. What is to be merged is known before it is merged, and with
it whether all numbers fit. A version is published only after it has been
checked, and whatever goes wrong leaves the store as it was.
-/

import Chunking.Diff.Detect
import Chunking.Engine.Host
import Chunking.Scope
import Chunking.Signals
import Chunking.Store

namespace Chunking

/-- How a version came about. -/
inductive Mode where
  /-- The text was the one already known. -/
  | unchanged
  /-- Only windows were parsed. -/
  | incremental
  /-- The whole text was parsed. -/
  | full
  deriving DecidableEq, Repr

def Mode.name : Mode → String
  | .unchanged => "unchanged"
  | .incremental => "incremental"
  | .full => "full"

/-- What a parse did. -/
structure Report where
  mode : Mode
  /-- Why the whole text was parsed. -/
  escalation : Option Escalation := none
  /-- The lines that were parsed. -/
  windows : List LineRange := []
  /-- How many chunks were carried over. -/
  survivors : Nat := 0
  /-- How many constructs were found in the parsed lines. -/
  reparsed : Nat := 0
  reusedIds : List String := []
  allocatedIds : List String := []
  deriving Repr

structure Outcome where
  version : Version
  report : Report
  deriving Repr

/-- How much someone wants to be parsed. -/
inductive Request where
  /-- The whole text in any case. -/
  | full
  /-- As little as possible. -/
  | auto
  deriving DecidableEq, Repr

structure Engine where
  settings : Settings
  registry : Registry
  /-- Finds the changes between two texts. Unless something else is said, it takes the time that it
  needs. -/
  detect : String → String → Except Error (List LineChange) := Diff.detect .ample

/-- What engines are made with, whatever their settings are. -/
structure Toolkit where
  registry : Registry
  /-- How time goes by while two texts are compared. -/
  clock : (old new : String) → Diff.Clock

/-- An engine that compares texts no longer than its settings allow. -/
def Toolkit.engine (toolkit : Toolkit) (settings : Settings) : Engine where
  settings
  registry := toolkit.registry
  detect old new := Diff.detect (.ofTimeout settings.diffTimeout (toolkit.clock old new)) old new

/-- One text of one file, with the processor for it. -/
structure Job where
  file : String
  text : String
  language : Language
  processor : Processor

namespace Job

def index (job : Job) : LineIndex :=
  LineIndex.ofText job.text

/-- Scores drafts that are placed in the whole text; drafts outside of it are dropped. -/
def freshChunks (job : Job) (drafts : List Draft) : List FreshChunk :=
  let index := job.index
  let lines := index.lines
  drafts.filterMap fun draft =>
    (index.spanDigest? draft.span.startLine draft.span.endLine).map fun contentHash =>
      let signals := Signals.inspect draft job.language lines
      { draft, contentHash, confidence := signals.score draft.rawConfidence }

/-- Makes a version out of its parts and checks it. -/
def assemble (job : Job) (merged : Merge.Outcome) (outline : List Span) (recovered : Bool) :
    Except Error Version := do
  let version : Version :=
    { file := job.file
      language := job.language
      textHash := Digest.ofText job.text
      lineCount := job.index.size
      chunks := merged.chunks
      recovered
      lineage := merged.lineage
      outline }
  version.validate (some job.text)
  return version

end Job

/-! ### Plans -/

/-- A version to be made: what is merged for it, and what comes with the merge. -/
structure Making where
  input : Merge.Input
  outline : List Span
  recovered : Bool
  mode : Mode
  escalation : Option Escalation
  windows : List LineRange

/-- What is said about a version once the merge for it is done. -/
def Making.report (making : Making) (merged : Merge.Outcome) : Report :=
  { mode := making.mode
    escalation := making.escalation
    windows := making.windows
    survivors := making.input.survivors.length - merged.displaced
    reparsed := making.input.fresh.length
    reusedIds := merged.reused
    allocatedIds := merged.allocated }

/-- What is left to be done once everything has been parsed. -/
inductive Plan where
  /-- The text is the one already known. -/
  | keep (version : Version)
  | merge (making : Making)

/-- The outcome for a text that is already known. -/
def Engine.unchanged (version : Version) : Outcome :=
  { version, report := { mode := .unchanged, survivors := version.chunks.length } }

namespace Plan

/-- What is merged, if anything is. -/
def input? : Plan → Option Merge.Input
  | keep _ => none
  | merge making => some making.input

/-- Carries out what is left to be done. -/
def conclude (plan : Plan) (job : Job) : Except Error Outcome :=
  match plan with
  | keep version => return Engine.unchanged version
  | merge making => do
    let merged := making.input.outcome
    let version ← job.assemble merged making.outline making.recovered
    return ⟨version, making.report merged⟩

/-- Whether it cannot be carried out, because a number does not fit. -/
def overflows (plan : Plan) : Bool :=
  plan.input?.any Merge.Input.overflows

end Plan

/-- What was found in several windows. -/
structure WindowFindings where
  drafts : List Draft
  outline : List Span

namespace Engine

variable {σ : Type}

/-! ### Parsing the whole text -/

def policy (engine : Engine) (file : String) : Merge.Policy :=
  { file
    matching := engine.settings.idMatching
    proximityLines := engine.settings.proximityLines }

/-- An error of the processor in the whole text. -/
def fullParseError (file : String) (error : Error) : Error :=
  match error with
  | .cancelled stopped => .cancelled stopped
  | other => .parseFailed file other.message

/-- What is merged after a parse of the whole text; `prior` is the version whose ids are taken
over. -/
def fullInput (engine : Engine) (job : Job) (prior : Option Version) (changes : List LineChange)
    (extraction : Extraction) : Merge.Input where
  policy := engine.policy job.file
  survivors := []
  fresh := job.freshChunks extraction.drafts
  invalidated := prior.elim [] fun version => version.chunks.map (Invalidated.ofPrior changes)
  lineage := prior.elim {} Version.lineage
  changes

/-- The version to be made after a parse of the whole text. -/
def fullMaking (engine : Engine) (job : Job) (prior : Option Version) (changes : List LineChange)
    (reason : Escalation) (extraction : Extraction) : Making where
  input := engine.fullInput job prior changes extraction
  outline := extraction.outline
  recovered := extraction.recovered
  mode := .full
  escalation := some reason
  windows := [⟨0, job.index.size⟩]

/-- Parses the whole text, and takes over the ids of an earlier version if there is one. -/
def fullParse (engine : Engine) (host : Host σ) (job : Job) (prior : Option Version)
    (changes : List LineChange) (reason : Escalation) : Work σ Plan := do
  host.check job.file
  let attempted ← host.attempt job.processor job.text .file
  let extraction ← attempted.mapError (fullParseError job.file)
  host.check job.file
  return .merge (engine.fullMaking job prior changes reason extraction)

/-! ### Parsing windows -/

/-- Parses windows one after another. The inner result is an error after which the whole text can
still be tried. -/
def parseWindows (host : Host σ) (job : Job) :
    List LineRange → Work σ (Except Error WindowFindings)
  | [] => return .ok ⟨[], []⟩
  | window :: rest => do
    host.check job.file
    match ← host.attempt job.processor (job.index.slice window.start window.stop) .window with
    | .error error => if error.isRecoverable then return .error error else throw error
    | .ok extraction =>
      match ← parseWindows host job rest with
      | .error error => return .error error
      | .ok found =>
        return .ok {
          drafts := extraction.drafts.map (·.offset window.start) ++ found.drafts
          outline := extraction.outline.map (·.offset window.start) ++ found.outline }

/-- What is merged after a parse of windows: what was found in them, and the chunks that survive. -/
def windowInput (engine : Engine) (job : Job) (prior : Version) (changes : List LineChange)
    (resolution : Resolution) (found : WindowFindings) : Merge.Input where
  policy := engine.policy job.file
  survivors := resolution.survivors
  fresh := job.freshChunks found.drafts
  invalidated := resolution.invalidated
  lineage := prior.lineage
  changes

/-- The version to be made after a parse of windows. -/
def windowMaking (engine : Engine) (job : Job) (prior : Version) (changes : List LineChange)
    (resolution : Resolution) (windows : List LineRange) (found : WindowFindings) : Making where
  input := engine.windowInput job prior changes resolution found
  outline := carryOutline prior.outline changes windows found.outline
  recovered := false
  mode := .incremental
  escalation := none
  windows

/-- Parses only what changes make necessary. -/
def reparse (engine : Engine) (host : Host σ) (job : Job) (prior : Version)
    (changes : List LineChange) : Work σ Plan := do
  let resolution :=
    Resolution.resolve job.processor.isBoundary engine.settings prior changes job.index
  match resolution.scope with
  | .full reason => engine.fullParse host job (some prior) changes reason
  | .windows windows =>
    match ← parseWindows host job windows with
    | .error error =>
      engine.fullParse host job (some prior) changes (.windowFailed error.message)
    | .ok found =>
      host.check job.file
      return .merge (engine.windowMaking job prior changes resolution windows found)

/-! ### Requests -/

/-- The changes between two texts, or none if they cannot be found. -/
def bestChanges (engine : Engine) (old new : String) : List LineChange :=
  match engine.detect old new with
  | .ok changes => changes
  | .error _ => []

/-- Parses what it takes to bring the snapshot of a file up to date. -/
def update (engine : Engine) (host : Host σ) (job : Job) (request : Request)
    (prior : Snapshot) : Work σ Plan := do
  let version := prior.version
  if request = .full then
    engine.fullParse host job (some version) (engine.bestChanges prior.text job.text) .forced
  else if prior.text = job.text then return .keep version
  else if version.recovered then
    engine.fullParse host job (some version) (engine.bestChanges prior.text job.text)
      .recoveredPrior
  else
    match engine.detect prior.text job.text with
    | .error error =>
      if error.isRecoverable then
        engine.fullParse host job (some version) [] (.diffInconclusive error.message)
      else throw error
    | .ok changes =>
      host.check job.file
      engine.reparse host job version changes

/-- Parses what it takes to find the version of a text, given the snapshot that the file has now. -/
def plan (engine : Engine) (host : Host σ) (job : Job) (request : Request)
    (prior : Option Snapshot) : Work σ Plan := do
  host.check job.file
  match prior with
  | none => engine.fullParse host job none [] .noPrior
  | some snapshot =>
    if snapshot.version.language = job.language then engine.update host job request snapshot
    else engine.fullParse host job none [] .languageChanged

/-- Finds the version of a text, given the snapshot that the file has now. -/
def build (engine : Engine) (host : Host σ) (job : Job) (request : Request)
    (prior : Option Snapshot) : Work σ Outcome := do
  (← engine.plan host job request prior).conclude job

/-- Work with the slot of a file in hand, which is still there after an error. -/
abbrev Writing (σ : Type) := ExceptT Error (StateT Store.Guard (StateM σ))

/-- Work that leaves the slot alone. -/
def besides {α : Type} (work : Work σ α) : Writing σ α :=
  ExceptT.mk (StateT.lift work.run)

/-- Finds the version of a text and publishes it, unless it is the one already known. -/
def bring (engine : Engine) (host : Host σ) (job : Job) (request : Request) :
    Writing σ Outcome := do
  let guard ← get
  let outcome ← besides (engine.build host job request guard.current)
  if outcome.report.mode ≠ .unchanged then
    besides (host.check job.file)
    Store.Guard.publish ⟨outcome.version, job.text⟩
  return outcome

/-- Brings a file up to date with a text. What is left of the store is given back in any case. -/
def transact (engine : Engine) (host : Host σ) (store : Store) (file text : String)
    (language : Language) (request : Request) : StateM σ (Except Error Outcome × Store) :=
  match engine.registry.get language with
  | .error error => return (.error error, store)
  | .ok processor =>
    store.access file (engine.bring host { file, text, language, processor } request).run

/-- Whether the program stops when it is to bring a file up to date with a text, because a number does
not fit. -/
def stops (engine : Engine) (host : Host σ) (store : Store) (file text : String)
    (language : Language) (request : Request) : StateM σ Bool :=
  match engine.registry.get language with
  | .error _ => return false
  | .ok processor => do
    match ← (engine.plan host { file, text, language, processor } request (store.peek? file)).run with
    | .error _ => return false
    | .ok plan => return plan.overflows

/-- Brings a file up to date with a text, and gives the store back if this succeeds. -/
def run (engine : Engine) (host : Host σ) (store : Store) (file text : String)
    (language : Language) (request : Request) : Work σ (Outcome × Store) :=
  ExceptT.mk do
    let (result, store) ← engine.transact host store file text language request
    return result.map fun outcome => (outcome, store)

/-- Enters a version that comes from elsewhere, after checking that it belongs to the text. -/
def hydrate (store : Store) (version : Version) (text : String) : Except Error Store :=
  if version.textHash ≠ Digest.ofText text then .error (version.violated .textMismatch)
  else do
    version.validate (some text)
    return store.publish version.file ⟨version, text⟩

/-! ### Several files -/

/-- A text to bring a file up to date with. -/
structure SourceInput where
  file : String
  text : String
  language : Language

/-- Brings one file up to date, without anything from outside. -/
def perform (engine : Engine) (request : Request) (store : Store) (input : SourceInput) :
    Except Error Outcome × Store :=
  ((engine.transact Host.plain store input.file input.text input.language request).run ()).1

/-- Whether the program stops over one file. -/
def overflows (engine : Engine) (request : Request) (store : Store) (input : SourceInput) : Bool :=
  ((engine.stops Host.plain store input.file input.text input.language request).run ()).1

/-- Brings several files up to date, one after another. Different files may as well be brought up to
date at the same time: without a limit on how many the store holds, their order makes no difference.
With one, it decides which of them are dropped, and this is the order in which they are given. -/
def performAll (engine : Engine) (request : Request) :
    Store → List SourceInput → List (Except Error Outcome) × Store
  | store, [] => ([], store)
  | store, input :: rest =>
    let (result, store) := engine.perform request store input
    let (results, store) := engine.performAll request store rest
    (result :: results, store)

/-- Whether the program stops over one of several files. -/
def overflowsAny (engine : Engine) (request : Request) : Store → List SourceInput → Bool
  | _, [] => false
  | store, input :: rest =>
    engine.overflows request store input
      || engine.overflowsAny request (engine.perform request store input).2 rest

end Engine

end Chunking
