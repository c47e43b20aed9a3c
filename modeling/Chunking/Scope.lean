/-
The scope of an edit: which chunks of the old version survive it, and which
lines of the new text have to be parsed again. A chunk that a change touches is
dropped, and so is one that a window has to grow over. If too many chunks are
dropped, or if windows cannot be cut at all, the whole text is parsed again.
-/

import Chunking.Merge
import Chunking.Processor
import Chunking.Scope.Windows
import Chunking.Version

namespace Chunking

open Number

/-- Why a whole text is parsed. -/
inductive Escalation where
  | noPrior
  | languageChanged
  | alwaysFull
  | tooManyInvalidated (invalidated total : Nat)
  | diffInconclusive (reason : String)
  | recoveredPrior
  | noOutline
  | windowFailed (reason : String)
  /-- Someone asked for it. -/
  | forced
  deriving DecidableEq, Repr

def Escalation.message : Escalation → String
  | .noPrior => "no cached version"
  | .languageChanged => "language changed"
  | .alwaysFull => "incremental reparsing disabled"
  | .tooManyInvalidated invalidated total =>
    toString invalidated ++ " of " ++ toString total ++ " chunks invalidated"
  | .diffInconclusive reason => "diff inconclusive: " ++ reason
  | .recoveredPrior => "cached version had syntax errors"
  | .noOutline => "cached version has no syntax outline"
  | .windowFailed reason => "window parse failed: " ++ reason
  | .forced => "full parse requested"

/-- What is to be parsed again. -/
inductive Scope where
  | full (reason : Escalation)
  | windows (ranges : List LineRange)
  deriving DecidableEq, Repr

/-- What becomes of the chunks of a version. -/
structure Resolution where
  scope : Scope
  /-- Chunks that are kept, placed in the new text. -/
  survivors : List Chunk
  invalidated : List Invalidated
  deriving Repr

namespace Resolution

/-- Drops all chunks. -/
def full (prior : List Chunk) (changes : List LineChange) (reason : Escalation) : Resolution :=
  { scope := .full reason
    survivors := []
    invalidated := prior.map (Invalidated.ofPrior changes) }

/-- Whether a change touches the lines of an old span. -/
def isTouched (changes : List LineChange) (span : Span) : Bool :=
  changes.any (·.touches span.toRange)

/-- About where the lines of an old span are in a new text of `size` lines. -/
def mappedRange (changes : List LineChange) (size : Nat) (span : Span) : LineRange :=
  let start := Changes.mapLine changes (span.startLine - 1)
  let stop := Changes.mapLine changes (span.endLine - 1) + 1
  ⟨min start size, min (max stop start) size⟩

/-- The lines of a change in a new text of `size` lines with their neighbours, which decide how
far a construct reaches and how it scores. -/
def around (size : Nat) (change : LineChange) : LineRange :=
  ⟨min (change.new.start - 1) size, min (change.new.stop + 1) size⟩

/-- Whether more chunks are dropped than the settings allow. -/
def isExcessive (settings : Settings) (invalidated total : Nat) : Bool :=
  0 < total
    && (settings.escalationFraction.mul (Binary.ofNat total)).lt (Binary.ofNat invalidated)

/-- Decides what a list of changes means for a version. -/
def resolve (isBoundary : Option String → String → Bool) (settings : Settings) (version : Version)
    (changes : List LineChange) (text : LineIndex) : Resolution :=
  let prior := version.chunks
  if settings.alwaysFull then full prior changes .alwaysFull
  else if version.outline.isEmpty && 0 < version.lineCount then full prior changes .noOutline
  else
    let cuts : Cuts :=
      { lines := text.lines
        isBoundary
        changes
        outline := version.outline
        oldLineCount := version.lineCount }
    let touched := prior.filter (isTouched changes ·.span)
    let untouched := prior.filter (!isTouched changes ·.span)
    let shifted := untouched.map fun chunk =>
      { chunk with span := Changes.shiftSpan changes chunk.span }
    let windows := touched.map (mappedRange changes cuts.size ·.span)
      ++ changes.map (around cuts.size)
    let settled := Windows.settle cuts windows shifted
    let invalidated := touched.map (Invalidated.ofPrior changes)
      ++ settled.swallowed.map Invalidated.atOwnPlace
    if isExcessive settings invalidated.length prior.length then
      full prior changes (.tooManyInvalidated invalidated.length prior.length)
    else { scope := .windows settled.windows, survivors := settled.kept, invalidated }

end Resolution

/-! ### The outline of the new text -/

namespace Span

/-- The order by first, and then by last line. -/
def inOrder (left right : Span) : Bool :=
  left.startLine < right.startLine
    || (left.startLine == right.startLine && left.endLine ≤ right.endLine)

end Span

/-- The outline of a new text: the old nodes that lie outside of all changes and windows, moved,
together with the nodes found in the windows. -/
def carryOutline (prior : List Span) (changes : List LineChange) (windows : List LineRange)
    (parsed : List Span) : List Span :=
  let moved := (prior.filter (!Resolution.isTouched changes ·)).map (Changes.shiftSpan changes)
  let outside := moved.filter fun node => !windows.any (·.overlaps node.toRange)
  ((outside ++ parsed).mergeSort Span.inOrder).eraseReps

end Chunking
