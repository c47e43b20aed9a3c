/-
Lines by offsets and lines by rows. The table of offsets notes where the rows of a
text start, so a cut between two of its entries is a stretch of rows: it lies between
characters and gives the same as the index that keeps the rows themselves. With it,
what is known of stretches of rows holds of the table. Slices next to each other make
up a slice, the lines of a slice are numbered as they are in the text from its first
line on, and lines are counted and, but for a carriage return at the very end, read
as by the plain reading.
-/

import Chunking.LineIndex.Starts
import Chunking.Proofs.Nodes

namespace Chunking

namespace Text

/-! ### Cutting between bytes -/

theorem byteSize_append (front back : List Char) :
    byteSize (front ++ back) = byteSize front + byteSize back := by
  induction front with
  | nil => exact (Nat.zero_add _).symm
  | cons char rest inductionHypothesis =>
    rw [List.cons_append, byteSize, byteSize, inductionHypothesis, Nat.add_assoc]

theorem dropBytes_append (front back : List Char) :
    dropBytes (byteSize front) (front ++ back) = some back := by
  induction front with
  | nil => cases back <;> rfl
  | cons char rest inductionHypothesis =>
    have positive := char.utf8Size_pos
    rw [List.cons_append, byteSize, dropBytes, if_neg (by omega), if_pos (Nat.le_add_right _ _),
      Nat.add_sub_cancel_left, inductionHypothesis]

theorem takeBytes_append (front back : List Char) :
    takeBytes (byteSize front) (front ++ back) = some front := by
  induction front with
  | nil => cases back <;> rfl
  | cons char rest inductionHypothesis =>
    have positive := char.utf8Size_pos
    rw [List.cons_append, byteSize, takeBytes, if_neg (by omega), if_pos (Nat.le_add_right _ _),
      Nat.add_sub_cancel_left, inductionHypothesis, Option.map_some]

/-- A text is cut as it was put together. -/
theorem byteSlice?_append (front middle back : String) :
    byteSlice? front.utf8ByteSize (front ++ middle).utf8ByteSize (front ++ middle ++ back) =
      some middle := by
  rw [byteSlice?, String.utf8ByteSize_append, if_pos (Nat.le_add_right _ _),
    Nat.add_sub_cancel_left, String.toList_append, String.toList_append, List.append_assoc,
    ← byteSize_toList, ← byteSize_toList, dropBytes_append, Option.bind_some, takeBytes_append,
    Option.map_some, String.ofList_toList]

theorem endsLine_append {front back : String} (filled : back ≠ "") :
    EndsLine (front ++ back) ↔ EndsLine back := by
  have chars : back.toList ≠ [] := fun none => filled (String.toList_eq_nil_iff.mp none)
  rw [EndsLine, String.toList_append, List.getLast?_append_of_ne_nil _ chars, EndsLine]

/-! ### Terminators -/

theorem dropFinal_concat (mark : Char) (chars : List Char) :
    dropFinal mark (chars ++ [mark]) = chars := by
  rw [dropFinal, List.getLast?_concat, if_pos rfl, List.dropLast_concat]

theorem dropFinal_of_ne {mark : Char} {chars : List Char} (other : chars.getLast? ≠ some mark) :
    dropFinal mark chars = chars :=
  if_neg other

theorem stripTerminator_of_closed {line : String} (closed : EndsLine line) :
    stripTerminator line = stripEnding line :=
  if_pos closed

theorem stripTerminator_of_unclosed {line : String} (unclosed : ¬ EndsLine line) :
    stripTerminator line = line :=
  if_neg unclosed

/-- Without a line feed at the end, a carriage return there is all that can be removed. -/
theorem stripEnding_of_unclosed {line : String} (unclosed : ¬ EndsLine line) :
    stripEnding line = String.ofList (dropFinal '\r' line.toList) := by
  rw [stripEnding, dropFinal_of_ne unclosed]

/-- `row` is a line with the content `content`: there is no line feed inside of it, and it ends in a
line feed with the carriage return before it, in a line feed without one, or in neither. -/
def HasContent (row content : String) : Prop :=
  '\n' ∉ content.toList ∧ (row = content ++ "\r\n" ∨
    row = content ++ "\n" ∧ content.toList.getLast? ≠ some '\r' ∨ row = content)

theorem hasContent_stripTerminator {row : String} (single : '\n' ∉ row.toList.dropLast) :
    HasContent row (stripTerminator row) := by
  by_cases closed : EndsLine row
  · obtain ⟨front, chars⟩ := List.getLast?_eq_some_iff.mp closed
    rw [chars, List.dropLast_concat] at single
    rw [stripTerminator_of_closed closed, stripEnding, chars, dropFinal_concat]
    by_cases returned : front.getLast? = some '\r'
    · obtain ⟨content, rfl⟩ := List.getLast?_eq_some_iff.mp returned
      rw [dropFinal_concat, HasContent, String.toList_ofList]
      refine ⟨fun inside => single (List.mem_append_left _ inside), Or.inl ?_⟩
      rw [← String.toList_inj, chars, String.toList_append, String.toList_ofList, List.append_assoc]
      rfl
    · rw [dropFinal_of_ne returned, HasContent, String.toList_ofList]
      refine ⟨single, Or.inr (Or.inl ⟨?_, returned⟩)⟩
      rw [← String.toList_inj, chars, String.toList_append, String.toList_ofList]
      rfl
  · rw [stripTerminator_of_unclosed closed]
    refine ⟨fun inside => ?_, Or.inr (Or.inr rfl)⟩
    rcases List.eq_nil_or_concat' row.toList with none | ⟨front, last, chars⟩
    · rw [none] at inside
      cases inside
    · rw [chars, List.dropLast_concat] at single
      rw [EndsLine, chars, List.getLast?_concat, Option.some.injEq] at closed
      rw [chars, List.mem_append, List.mem_singleton] at inside
      exact inside.elim single fun feed => closed feed.symm

theorem not_mem_dropLast_of_cutLines {chars row : List Char} (member : row ∈ cutLines chars) :
    '\n' ∉ row.dropLast := by
  induction chars generalizing row with
  | nil => cases member
  | cons char rest inductionHypothesis =>
    rw [cutLines] at member
    split at member
    · rcases List.mem_cons.mp member with rfl | later
      · exact List.not_mem_nil
      · exact inductionHypothesis later
    next noFeed =>
      split at member
      · rw [List.mem_singleton.mp member]
        exact List.not_mem_nil
      next line lines cut =>
        rcases List.mem_cons.mp member with rfl | later
        · cases line with
          | nil => exact List.not_mem_nil
          | cons first more =>
            rw [List.dropLast_cons_cons, List.mem_cons, not_or]
            exact ⟨Ne.symm noFeed, inductionHypothesis (cut ▸ List.mem_cons_self)⟩
        · exact inductionHypothesis (cut ▸ List.mem_cons_of_mem _ later)

end Text

/-! ### Rows -/

namespace LineIndex

open Text

variable {text : String} {line : Nat}

theorem slice_row {index : LineIndex} {row : String} (isRow : index.rows[line]? = some row) :
    index.slice line (line + 1) = row := by
  obtain ⟨inside, rfl⟩ := List.getElem?_eq_some_iff.mp isRow
  rw [slice, Nat.add_sub_cancel_left, List.drop_eq_getElem_cons inside, List.take_succ_cons,
    List.take_zero, String.join_cons, String.join_nil, String.append_empty]

/-- A slice of a slice is a slice of the text, further down. -/
theorem slice_slice {start stop first last : Nat} (inside : last ≤ stop - start) :
    (ofText ((ofText text).slice start stop)).slice first last =
      (ofText text).slice (start + first) (start + last) := by
  rw [slice, rows_slice, List.drop_take, List.take_take, List.drop_drop,
    Nat.min_eq_left (Nat.sub_le_sub_right inside first), slice, Nat.add_sub_add_left]

/-- All rows end in a line feed, the last one if the text does. -/
theorem endsLine_row {row : String} (isRow : (ofText text).rows[line]? = some row) :
    EndsLine row ↔ line + 1 < (ofText text).size ∨ EndsLine text := by
  have inside : line < (ofText text).size := (List.getElem?_eq_some_iff.mp isRow).1
  have here := slice_row isRow
  rcases Nat.lt_or_ge (line + 1) (ofText text).size with more | last
  · have closed := endsLine_slice text (Nat.lt_succ_self line) more
    rw [here] at closed
    exact iff_of_true closed (Or.inl more)
  · have filled : row ≠ "" := by
      rw [← here, Ne, slice_eq_empty text inside]
      omega
    have split : (ofText text).slice 0 line ++ row = text := by
      rw [← here, slice_append _ (Nat.zero_le line) (Nat.le_add_right line 1),
        show line + 1 = (ofText text).size by omega, slice_all]
    rw [or_iff_right (Nat.not_lt_of_le last), ← endsLine_append filled, split]

end LineIndex

/-! ### The table -/

namespace LineStarts

open Text

/-- Where rows start of which the first is at byte `offset`. -/
def placesFrom (offset : Nat) : List (List Char) → List Nat
  | [] => []
  | row :: rows => offset :: placesFrom (offset + byteSize row) rows

/-- Rows start behind the line feeds, except for one at the end. -/
theorem filter_behindFeeds (offset : Nat) {chars : List Char} (filled : chars ≠ []) :
    offset :: (behindFeeds offset chars).filter (· < offset + byteSize chars) =
      placesFrom offset (cutLines chars) := by
  induction chars generalizing offset with
  | nil => exact absurd rfl filled
  | cons char rest inductionHypothesis =>
    rw [behindFeeds, cutLines]
    by_cases last : rest = []
    · have single : '\n'.utf8Size = 1 := rfl
      by_cases feed : char = '\n' <;>
        simp [last, feed, behindFeeds, cutLines, placesFrom, byteSize, single]
    · have more : 0 < byteSize rest :=
        Nat.pos_of_ne_zero fun none => last (eq_nil_of_byteSize none)
      by_cases feed : char = '\n'
      · have one : byteSize [char] = 1 := by rw [feed]; rfl
        have whole : offset + byteSize (char :: rest) = offset + 1 + byteSize rest := by
          rw [← List.singleton_append, byteSize_append, one, Nat.add_assoc]
        rw [if_pos feed, if_pos feed, placesFrom, one, whole,
          List.filter_cons_of_pos (by simpa using more), inductionHypothesis _ last]
      · -- The character makes the first row of the rest longer, and moves no other row.
        have whole : offset + byteSize (char :: rest) =
            offset + char.utf8Size + byteSize rest := (Nat.add_assoc _ _ _).symm
        have later := inductionHypothesis (offset + char.utf8Size) last
        rw [if_neg feed, if_neg feed, whole]
        cases cut : cutLines rest with
        | nil => exact absurd (cutLines_eq_nil.mp cut) last
        | cons row rows =>
          rw [cut, placesFrom] at later
          rw [placesFrom, byteSize, ← Nat.add_assoc, (List.cons.inj later).2]

theorem getElem?_placesFrom {offset line : Nat} {rows : List (List Char)}
    (inside : line < rows.length) :
    (placesFrom offset rows)[line]? = some (offset + byteSize (rows.take line).flatten) := by
  induction rows generalizing offset line with
  | nil => cases inside
  | cons row rows inductionHypothesis =>
    cases line with
    | zero => rfl
    | succ line =>
      rw [placesFrom, List.getElem?_cons_succ, inductionHypothesis (Nat.lt_of_succ_lt_succ inside),
        List.take_succ_cons, List.flatten_cons, byteSize_append, Nat.add_assoc]

theorem length_placesFrom (offset : Nat) (rows : List (List Char)) :
    (placesFrom offset rows).length = rows.length := by
  induction rows generalizing offset with
  | nil => rfl
  | cons row rows inductionHypothesis =>
    rw [placesFrom, List.length_cons, List.length_cons, inductionHypothesis]

theorem text_ofText (text : String) : (ofText text).text = text := by
  unfold ofText
  split <;> rfl

theorem starts_ofText (text : String) :
    (ofText text).starts = placesFrom 0 (cutLines text.toList) := by
  unfold ofText
  split
  next empty =>
    rw [empty]
    rfl
  next filled =>
    have chars : text.toList ≠ [] := fun none => filled (String.toList_eq_nil_iff.mp none)
    rw [← filter_behindFeeds 0 chars, Nat.zero_add, byteSize_toList]

variable (text : String)

theorem size_eq : (ofText text).size = (LineIndex.ofText text).size := by
  rw [size, starts_ofText, length_placesFrom]
  exact (List.length_map _).symm

theorem getElem?_starts {index : LineStarts} {line : Nat} (inside : line < index.size) :
    index.starts[line]? = some (index.offset line) := by
  rw [offset, List.getElem?_eq_getElem inside, Option.getD_some]

/-- A line starts behind all the lines before it. -/
theorem offset_eq (line : Nat) :
    (ofText text).offset line = ((LineIndex.ofText text).slice 0 line).utf8ByteSize := by
  have before : ((LineIndex.ofText text).slice 0 line).toList =
      ((cutLines text.toList).take line).flatten := by
    rw [LineIndex.slice, LineIndex.ofText, rawLines, String.toList_join, List.drop_zero,
      Nat.sub_zero, ← List.map_take, List.flatMap_map]
    simp only [String.toList_ofList, List.flatMap_id']
  rw [← byteSize_toList, before]
  by_cases inside : line < (cutLines text.toList).length
  · rw [offset, starts_ofText, getElem?_placesFrom inside, Option.getD_some, Nat.zero_add]
  · rw [offset, starts_ofText, List.getElem?_eq_none (by rw [length_placesFrom]; omega),
      Option.getD_none, text_ofText, List.take_of_length_le (by omega), flatten_cutLines,
      byteSize_toList]

/-- A cut between two lines lies between characters, and gives the rows from the one up to the
other. -/
theorem byteSlice?_offset {start stop : Nat} (ordered : start ≤ stop) :
    byteSlice? ((ofText text).offset start) ((ofText text).offset stop) (ofText text).text =
      some ((LineIndex.ofText text).slice start stop) := by
  have front := (LineIndex.ofText text).slice_append (Nat.zero_le start) ordered
  have whole := (LineIndex.ofText text).slice_append (Nat.zero_le stop)
    (Nat.le_add_right stop (LineIndex.ofText text).size)
  have rest : (LineIndex.ofText text).slice 0 (stop + (LineIndex.ofText text).size) = text := by
    rw [LineIndex.slice, List.drop_zero, Nat.sub_zero, LineIndex.size,
      List.take_of_length_le (Nat.le_add_left _ _)]
    exact join_rawLines text
  rw [rest, ← front] at whole
  have cut := byteSlice?_append ((LineIndex.ofText text).slice 0 start)
    ((LineIndex.ofText text).slice start stop)
    ((LineIndex.ofText text).slice stop (stop + (LineIndex.ofText text).size))
  rw [whole, front, ← offset_eq, ← offset_eq] at cut
  rw [text_ofText, cut]

theorem slice?_eq (start stop : Nat) :
    (ofText text).slice? start stop = some ((LineIndex.ofText text).slice start stop) := by
  have later {first last : Nat} (ordered : first ≤ last) :
      (ofText text).offset first ≤ (ofText text).offset last := by
    rw [offset_eq, offset_eq, ← LineIndex.slice_append _ (Nat.zero_le first) ordered,
      String.utf8ByteSize_append]
    exact Nat.le_add_right _ _
  rw [slice?]
  rcases Nat.le_total start stop with ordered | reversed
  · rw [Nat.max_eq_left (later ordered), byteSlice?_offset text ordered]
  · rw [Nat.max_eq_right (later reversed), byteSlice?_offset text (Nat.le_refl start),
      LineIndex.slice_self, LineIndex.slice, Nat.sub_eq_zero_of_le reversed, List.take_zero,
      String.join_nil]

theorem line?_eq (line : Nat) : (ofText text).line? line = (LineIndex.ofText text).line? line := by
  rw [line?, LineIndex.line?, LineIndex.lines, List.getElem?_map]
  by_cases inside : line < (LineIndex.ofText text).size
  · obtain ⟨row, isRow⟩ : ∃ row, (LineIndex.ofText text).rows[line]? = some row :=
      ⟨_, List.getElem?_eq_getElem inside⟩
    rw [getElem?_starts (size_eq text ▸ inside), Option.bind_some,
      byteSlice?_offset text (Nat.le_succ line), LineIndex.slice_row isRow, isRow]
  · have outside : (ofText text).size ≤ line := size_eq text ▸ Nat.le_of_not_lt inside
    rw [List.getElem?_eq_none outside, List.getElem?_eq_none (Nat.le_of_not_lt inside)]
    rfl

theorem spanText?_eq (startLine endLine : Nat) : (ofText text).spanText? startLine endLine =
    (LineIndex.ofText text).spanText? startLine endLine := by
  rw [spanText?, LineIndex.spanText?, size_eq]
  split
  · rfl
  next inside =>
    rw [getElem?_starts (by rw [size_eq]; omega), Option.bind_some,
      byteSlice?_offset text (by omega), Option.map_some]

theorem filterMap_range_getElem? {α : Type} (items : List α) :
    (List.range items.length).filterMap (items[·]?) = items := by
  induction items with
  | nil => rfl
  | cons item rest inductionHypothesis =>
    rw [List.length_cons, List.range_succ_eq_map, List.filterMap_cons, List.filterMap_map]
    exact congrArg (item :: ·) inductionHypothesis

theorem lines_eq : (ofText text).lines = (LineIndex.ofText text).lines := by
  have all : (ofText text).line? = fun line => (LineIndex.ofText text).lines[line]? :=
    funext (line?_eq text)
  rw [lines, all, size_eq, ← LineIndex.length_lines, filterMap_range_getElem?]

/-- The two indices of a text answer every question alike. -/
structure Agrees (starts : LineStarts) (index : LineIndex) : Prop where
  size : starts.size = index.size
  isEmpty : starts.isEmpty = index.isEmpty
  lines : starts.lines = index.lines
  line : ∀ line, starts.line? line = index.line? line
  spanText : ∀ startLine endLine,
    starts.spanText? startLine endLine = index.spanText? startLine endLine
  spanDigest : ∀ startLine endLine,
    starts.spanDigest? startLine endLine = index.spanDigest? startLine endLine
  slice : ∀ start stop, starts.slice? start stop = some (index.slice start stop)

theorem agrees_ofText : Agrees (ofText text) (LineIndex.ofText text) where
  size := size_eq text
  isEmpty := by
    have length : (ofText text).starts.length = (LineIndex.ofText text).rows.length := size_eq text
    rw [Bool.eq_iff_iff, isEmpty, LineIndex.isEmpty, List.isEmpty_iff_length_eq_zero,
      List.isEmpty_iff_length_eq_zero, length]
  lines := lines_eq text
  line := line?_eq text
  spanText := spanText?_eq text
  spanDigest startLine endLine :=
    congrArg (Option.map Digest.ofText) (spanText?_eq text startLine endLine)
  slice := slice?_eq text

/-! ### Windows -/

/-- A window has the lines of the text from line `start` on, under their numbers less `start`. -/
structure Holds (text window : String) (start count : Nat) : Prop where
  size : (ofText window).size = count
  lines : ∀ line < count, ∃ content, (ofText window).line? line = some content ∧
    (ofText text).line? (start + line) = some content
  spans : ∀ startLine endLine, 1 ≤ startLine → startLine ≤ endLine → endLine ≤ count →
    ∃ covered, (ofText window).spanText? startLine endLine = some covered ∧
      (ofText text).spanText? (start + startLine) (start + endLine) = some covered
  plainLines : ∀ line < count, (plainLines window)[line]? = (plainLines text)[start + line]?

/-- The lines of a text, of its windows and of its plain reading are numbered alike. -/
structure Aligned (text : String) : Prop where
  index : Agrees (ofText text) (LineIndex.ofText text)
  whole : (ofText text).slice? 0 (ofText text).size = some text
  joined : ∀ first middle last, first ≤ middle → middle ≤ last → last ≤ (ofText text).size →
    ∃ front back, (ofText text).slice? first middle = some front ∧
      (ofText text).slice? middle last = some back ∧
      (ofText text).slice? first last = some (front ++ back)
  windows : ∀ start stop, start ≤ stop → stop ≤ (ofText text).size →
    ∃ window, (ofText text).slice? start stop = some window ∧
      Holds text window start (stop - start)
  count : (ofText text).size = (plainLines text).length
  contents : ∀ line content, (plainLines text)[line]? = some content →
    ∃ row, (ofText text).slice? line (line + 1) = some row ∧ HasContent row content
  /-- A line is read as by the plain reading, unless it is an unterminated last one that ends in a
  carriage return. -/
  plain : ∀ line content, (plainLines text)[line]? = some content →
    (line + 1 = (ofText text).size → EndsLine text ∨ content.toList.getLast? ≠ some '\r') →
    (ofText text).line? line = some content
  /-- Such a line loses the carriage return. -/
  returned : ∀ line content, (plainLines text)[line]? = some (content ++ "\r") →
    line + 1 = (ofText text).size → ¬ EndsLine text → (ofText text).line? line = some content

theorem holds_slice {start stop : Nat} (ordered : start ≤ stop)
    (inside : stop ≤ (ofText text).size) :
    Holds text ((LineIndex.ofText text).slice start stop) start (stop - start) := by
  rw [size_eq] at inside
  have below {line : Nat} (isLine : line < stop - start) :
      start + line < (LineIndex.ofText text).size := by omega
  constructor
  · rw [size_eq, LineIndex.size_slice text start inside]
  · intro line isLine
    have same : (LineIndex.ofText ((LineIndex.ofText text).slice start stop)).line? line =
        (LineIndex.ofText text).line? (start + line) := by
      rw [LineIndex.line?, LineIndex.line?, LineIndex.lines_slice, List.getElem?_take_of_lt isLine,
        List.getElem?_drop]
    have there : start + line < (LineIndex.ofText text).lines.length := by
      rw [LineIndex.length_lines]
      exact below isLine
    rw [line?_eq, line?_eq, same, LineIndex.line?, List.getElem?_eq_getElem there]
    exact ⟨_, rfl, rfl⟩
  · intro startLine endLine first nonempty last
    have size := LineIndex.size_slice text start inside
    rw [spanText?_eq, spanText?_eq, LineIndex.spanText?, LineIndex.spanText?, if_neg (by omega),
      if_neg (by omega), LineIndex.slice_slice last,
      show start + startLine - 1 = start + (startLine - 1) by omega]
    exact ⟨_, rfl, rfl⟩
  · intro line isLine
    have rows : rawLines ((LineIndex.ofText text).slice start stop) =
        ((rawLines text).drop start).take (stop - start) := LineIndex.rows_slice text start stop
    rw [plainLines, plainLines, rows, List.getElem?_map, List.getElem?_map,
      List.getElem?_take_of_lt isLine, List.getElem?_drop]

theorem exists_row {line : Nat} {content : String}
    (isContent : (plainLines text)[line]? = some content) :
    ∃ row, (LineIndex.ofText text).rows[line]? = some row ∧ stripTerminator row = content ∧
      (ofText text).line? line = some (stripEnding row) := by
  rw [plainLines, List.getElem?_map, Option.map_eq_some_iff] at isContent
  obtain ⟨row, isRow, stripped⟩ := isContent
  have rowHere : (LineIndex.ofText text).rows[line]? = some row := isRow
  refine ⟨row, rowHere, stripped, ?_⟩
  rw [line?_eq, LineIndex.line?, LineIndex.lines, List.getElem?_map, rowHere, Option.map_some]

/-- Lines have the same numbers and contents in a text, in its windows and in its plain reading,
but for a carriage return at the very end. -/
theorem lines_aligned : Aligned text where
  index := agrees_ofText text
  whole := by rw [slice?_eq, size_eq, LineIndex.slice_all]
  joined first middle last before behind _ :=
    ⟨_, _, slice?_eq text first middle, slice?_eq text middle last, by
      rw [slice?_eq, LineIndex.slice_append _ before behind]⟩
  windows start stop ordered inside :=
    ⟨_, slice?_eq text start stop, holds_slice text ordered inside⟩
  count := by rw [size_eq, plainLines, List.length_map]; rfl
  contents line content isContent := by
    obtain ⟨row, isRow, rfl, -⟩ := exists_row text isContent
    obtain ⟨chars, member, rfl⟩ := List.mem_map.mp (List.mem_of_getElem? isRow)
    refine ⟨String.ofList chars, ?_, hasContent_stripTerminator ?_⟩
    · rw [slice?_eq, LineIndex.slice_row isRow]
    · rw [String.toList_ofList]
      exact not_mem_dropLast_of_cutLines member
  plain line content isContent unlessReturn := by
    obtain ⟨row, isRow, stripped, read⟩ := exists_row text isContent
    by_cases closed : EndsLine row
    · rw [read, ← stripTerminator_of_closed closed, stripped]
    · obtain ⟨noMore, unclosed⟩ := not_or.mp (mt (LineIndex.endsLine_row isRow).mpr closed)
      have inside : line < (LineIndex.ofText text).size := (List.getElem?_eq_some_iff.mp isRow).1
      rw [stripTerminator_of_unclosed closed] at stripped
      subst stripped
      have noReturn := (unlessReturn (by rw [size_eq]; omega)).resolve_left unclosed
      rw [read, stripEnding_of_unclosed closed, dropFinal_of_ne noReturn, String.ofList_toList]
  returned line content isContent last unclosed := by
    obtain ⟨row, isRow, stripped, read⟩ := exists_row text isContent
    have rowUnclosed : ¬ EndsLine row := by
      rw [LineIndex.endsLine_row isRow, ← size_eq, last]
      exact not_or.mpr ⟨Nat.lt_irrefl _, unclosed⟩
    rw [stripTerminator_of_unclosed rowUnclosed] at stripped
    have chars : row.toList = content.toList ++ ['\r'] := by
      rw [stripped, String.toList_append]
      rfl
    rw [read, stripEnding_of_unclosed rowUnclosed, chars, dropFinal_concat, String.ofList_toList]

/-- A carriage return in front of a line feed is dropped by both readings, the last one by one. -/
example : (ofText "é\r\nb\r").starts = [0, 4] ∧ (ofText "é\r\nb\r").lines = ["é", "b"] ∧
    plainLines "é\r\nb\r" = ["é", "b\r"] := by
  decide

end LineStarts

end Chunking
