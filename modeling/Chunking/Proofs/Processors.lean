/-
What is asked of processors. The engine trusts them with very little: names that
do not look numbered keep ids apart, and outlines in order keep versions valid.
That parts of a text may be processed on their own asks for more: a text can be
cut between two of its nodes, and two texts can be put together where the second
one looks like a beginning. The simplest processor takes every line for a
construct of its own, and does all that is asked.
-/

import Chunking.Processor
import Chunking.Proofs.Overlaps
import Chunking.Proofs.Rows
import Chunking.Text.Blank

namespace Chunking

/-- What is found in a text followed by another one. -/
def Extraction.append (left : Extraction) (lines : Nat) (right : Extraction) : Extraction :=
  { drafts := left.drafts ++ right.drafts.map (·.offset lines)
    recovered := left.recovered || right.recovered
    outline := left.outline ++ right.outline.map (·.offset lines) }

/-- Every line of a text as a construct of one kind, with a name that the line decides about. -/
def Extraction.ofLines (kind : Kind) (name : String → String) (text : String) : Extraction :=
  { drafts := (List.range (LineIndex.ofText text).size).map fun line =>
      { kind
        name := name (((LineIndex.ofText text).line? line).getD "")
        span := ⟨line + 1, line + 1⟩ }
    recovered := false
    outline := (List.range (LineIndex.ofText text).size).map fun line => ⟨line + 1, line + 1⟩ }

namespace Text

/-- The first line of a text that is not blank. -/
def firstLine? (text : String) : Option String :=
  (LineIndex.ofText text).lines.find? (!isBlankText ·)

/-- The last line of a text that is not blank. -/
def lastLine? (text : String) : Option String :=
  (LineIndex.ofText text).lines.reverse.find? (!isBlankText ·)

end Text

namespace Processor

variable (processor : Processor)

/-! ### Demands -/

/-- All constructs that a processor finds have names as they should be. -/
def Names (named : Kind → String → Prop) : Prop :=
  ∀ ⦃text coverage extraction⦄, processor.process text coverage = .ok extraction →
    ∀ draft ∈ extraction.drafts, named draft.kind draft.name

/-- Outlines are in order and inside of the text. -/
def Outlines : Prop :=
  ∀ ⦃text coverage extraction⦄, processor.process text coverage = .ok extraction →
    (∀ node ∈ extraction.outline, node.Fits (LineIndex.ofText text).size) ∧
      extraction.outline.Pairwise fun left right => left.startLine ≤ right.startLine

/-- Constructs are inside of the text and in a row. -/
def Tidy : Prop :=
  ∀ ⦃text coverage extraction⦄, processor.process text coverage = .ok extraction →
    (∀ draft ∈ extraction.drafts, draft.span.Fits (LineIndex.ofText text).size) ∧
      extraction.drafts.Pairwise fun left right => left.span.Before right.span

/-- A text in which nothing had to be passed over. -/
def Clean (text : String) (extraction : Extraction) : Prop :=
  processor.process text .file = .ok extraction ∧ extraction.recovered = false

/-- A text may begin behind another one: it is blank, or its first line looks like a beginning. -/
def Opens (first second : String) : Prop :=
  ∀ line ∈ Text.firstLine? second, processor.isBoundary (Text.lastLine? first) line = true

/-- Parts of a text can be processed on their own. -/
structure Compositional : Prop where
  /-- A window is processed like a file, except that nothing is passed over. -/
  scope : ∀ text extraction, processor.process text .window = .ok extraction ↔
    processor.Clean text extraction
  tidy : processor.Tidy
  nodesFit : ∀ ⦃text coverage extraction⦄, processor.process text coverage = .ok extraction →
    ∀ node ∈ extraction.outline, node.Fits (LineIndex.ofText text).size
  /-- A text may be cut where no node runs across. -/
  split : ∀ ⦃first second whole⦄, processor.Clean (first ++ second) whole → Text.EndsLine first →
    (∀ node ∈ whole.outline, ¬ (node.startLine ≤ (LineIndex.ofText first).size ∧
      (LineIndex.ofText first).size < node.endLine)) →
    ∃ left right, processor.Clean first left ∧ processor.Clean second right ∧
      whole = left.append (LineIndex.ofText first).size right
  /-- Texts may be put together where the second one looks like a beginning. -/
  glue : ∀ ⦃first second left right⦄, processor.Clean first left → processor.Clean second right →
    Text.EndsLine first → processor.Opens first second →
    processor.Clean (first ++ second) (left.append (LineIndex.ofText first).size right)

/-! ### Lines as constructs -/

/-- Takes every line for a construct of one kind, with a name that the line decides about. -/
def lines (language : Language) (kind : Kind) (name : String → String) : Processor :=
  { language
    process := fun text _ => .ok (.ofLines kind name text)
    isBoundary := fun _ _ => true }

/-- Takes every line for a construct of one kind and name. -/
def linewise (language : Language) (kind : Kind) (name : String) : Processor :=
  lines language kind fun _ => name

section lines

variable (language : Language) (kind : Kind) (name : String → String)

theorem lines_outlines : (lines language kind name).Outlines := by
  rintro text coverage _ ⟨⟩
  refine ⟨fun node member => ?_, List.pairwise_map.mpr ?_⟩
  · obtain ⟨line, inside, rfl⟩ := List.mem_map.mp member
    rw [List.mem_range] at inside
    simp only [Span.Fits]
    omega
  · exact List.pairwise_lt_range.imp fun before => Nat.succ_le_succ (Nat.le_of_lt before)

theorem lines_tidy : (lines language kind name).Tidy := by
  rintro text coverage _ ⟨⟩
  refine ⟨fun draft member => ?_, List.pairwise_map.mpr ?_⟩
  · obtain ⟨line, inside, rfl⟩ := List.mem_map.mp member
    rw [List.mem_range] at inside
    simp only [Span.Fits]
    omega
  · exact List.pairwise_lt_range.imp fun before => Nat.succ_lt_succ before

/-- Behind a line feed, lines are counted on. -/
theorem lines_append {first second : String} (closed : Text.EndsLine first) (coverage : Coverage)
    {left right : Extraction}
    (leftProcessed : (lines language kind name).process first coverage = .ok left)
    (rightProcessed : (lines language kind name).process second coverage = .ok right) :
    (lines language kind name).process (first ++ second) coverage =
      .ok (left.append (LineIndex.ofText first).size right) := by
  have joined : (LineIndex.ofText (first ++ second)).lines =
      (LineIndex.ofText first).lines ++ (LineIndex.ofText second).lines := by
    rw [LineIndex.lines, LineIndex.ofText, Text.rawLines_append closed, List.map_append]
    rfl
  have counted : (LineIndex.ofText (first ++ second)).size =
      (LineIndex.ofText first).size + (LineIndex.ofText second).size := by
    rw [← LineIndex.length_lines, joined, List.length_append, LineIndex.length_lines,
      LineIndex.length_lines]
  have early : ∀ line ∈ List.range (LineIndex.ofText first).size,
      (LineIndex.ofText (first ++ second)).line? line = (LineIndex.ofText first).line? line := by
    intro line inside
    rw [List.mem_range, ← LineIndex.length_lines] at inside
    rw [LineIndex.line?, joined, List.getElem?_append_left inside, LineIndex.line?]
  have late (line : Nat) : (LineIndex.ofText (first ++ second)).line?
      ((LineIndex.ofText first).size + line) = (LineIndex.ofText second).line? line := by
    rw [← LineIndex.length_lines, LineIndex.line?, joined,
      List.getElem?_append_right (Nat.le_add_right _ _), Nat.add_sub_cancel_left, LineIndex.line?]
  have moved (line : Nat) : Span.mk ((LineIndex.ofText first).size + line + 1)
      ((LineIndex.ofText first).size + line + 1) =
        (Span.mk (line + 1) (line + 1)).offset (LineIndex.ofText first).size := by
    rw [Span.offset, Nat.add_comm (line + 1), Nat.add_assoc]
  cases leftProcessed
  cases rightProcessed
  simp only [lines, Extraction.ofLines, Extraction.append, counted, List.range_add, List.map_append,
    List.map_map, Function.comp_def, Draft.offset, moved, late, Bool.or_false]
  rw [List.map_congr_left fun line inside => by rw [early line inside]]

theorem lines_compositional : (lines language kind name).Compositional where
  scope := fun text extraction =>
    ⟨fun processed => ⟨processed, by cases processed; rfl⟩, fun clean => clean.1⟩
  tidy := lines_tidy language kind name
  nodesFit := fun _ _ _ processed => (lines_outlines language kind name processed).1
  split := by
    intro first second whole clean closed _
    refine ⟨_, _, ⟨rfl, rfl⟩, ⟨rfl, rfl⟩, ?_⟩
    exact Except.ok.inj (clean.1.symm.trans (lines_append language kind name closed .file rfl rfl))
  glue := by
    intro first second left right leftClean rightClean closed _
    refine ⟨lines_append language kind name closed .file leftClean.1 rightClean.1, ?_⟩
    simp only [Extraction.append, leftClean.2, rightClean.2, Bool.or_false]

end lines

variable (language : Language) (kind : Kind) (name : String)

theorem linewise_names : (linewise language kind name).Names fun kind' name' =>
    kind' = kind ∧ name' = name := by
  rintro text coverage _ ⟨⟩ draft member
  obtain ⟨line, _, rfl⟩ := List.mem_map.mp member
  exact ⟨rfl, rfl⟩

theorem linewise_outlines : (linewise language kind name).Outlines :=
  lines_outlines language kind fun _ => name

theorem linewise_tidy : (linewise language kind name).Tidy :=
  lines_tidy language kind fun _ => name

end Processor

end Chunking
