/-
The archive in its tables. What the archive keeps of a file in one place is spread
over two tables, and it is entered by statements that may fail halfway. All of this
cannot be seen from outside: the tables hold an archive, every call leaves them
with the archive that the same call leaves, and everything that is read from them
is what the archive answers. The row of a chunk says what the chunk says, since the
line numbers are words, every confidence of single precision is a double, and a
kind is known by its tag.
-/

import Chunking.Archive.Tables
import Chunking.Proofs.Hydration
import Chunking.Proofs.Rounding

namespace Chunking

open Number

/-! ### Columns -/

namespace ChunkRow

theorem real?_convert_eq_none {number : Single} (nan : number.isNaN = true) :
    real? number.convert = none := by
  have doubled : (Binary.notANumber : Double).isNaN = true := by decide
  rw [Binary.convert, of_decide_eq_true nan, real?, if_pos doubled]

/-- A confidence comes back from its column with nothing added to it. -/
theorem real?_convert {number : Single} (isNumber : number.isNaN = false) :
    ∃ kept, real? number.convert = some kept ∧ kept.convert = number.add (.ofNat 0) := by
  rw [Binary.add_zero (by decide) (by decide) isNumber]
  cases meant : number.meaning with
  | notANumber =>
    rw [Binary.isNaN, meant] at isNumber
    cases isNumber
  | infinite negative =>
    rw [Binary.eq_infinity (by decide) meant]
    cases negative
    · exact ⟨Binary.infinity false, by decide, by decide⟩
    · exact ⟨Binary.infinity true, by decide, by decide⟩
  | finite negative mantissa exponent =>
    obtain ⟨factor, place, doubled, value⟩ := Binary.meaning_convert meant
    have zero : (number.convert : Double).magnitude = 0 ↔ number.magnitude = 0 := by
      rw [Binary.magnitude_eq_zero_iff (by decide) doubled,
        Binary.magnitude_eq_zero_iff (by decide) meant]
      have power (exponent : Int) : (2 : ℚ) ^ exponent ≠ 0 := zpow_ne_zero exponent two_ne_zero
      constructor
      · rintro rfl
        simpa [power] using value.symm
      · rintro rfl
        simpa [power] using value
    have isNumber : (number.convert : Double).isNaN = false := by
      rw [Binary.isNaN, doubled]
      rfl
    rw [real?, isNumber, if_neg Bool.false_ne_true]
    simp only [zero]
    split
    · exact ⟨_, rfl, by decide⟩
    · exact ⟨_, rfl, Binary.convert_convert_of_finite meant⟩

variable {file : String} {chunk : Chunk} {row : ChunkRow}

theorem ofChunk?_eq_none (nan : chunk.confidence.isNaN = true) : ofChunk? file chunk = none := by
  rw [ofChunk?, real?_convert_eq_none nan]
  rfl

theorem exists_ofChunk? (file : String) (isNumber : chunk.confidence.isNaN = false) :
    ∃ row, ofChunk? file chunk = some row := by
  obtain ⟨kept, stored, _⟩ := real?_convert isNumber
  rw [ofChunk?, stored]
  exact ⟨_, rfl⟩

/-- The columns by which rows are told apart and put in order. -/
theorem columns_of_ofChunk? (made : ofChunk? file chunk = some row) :
    row.file = file ∧ row.id = chunk.id ∧ row.startLine = Word.signed chunk.span.startLine := by
  obtain ⟨kept, _, rfl⟩ := Option.map_eq_some_iff.mp made
  exact ⟨rfl, rfl, rfl⟩

/-- A row says what the archive keeps of its chunk. -/
theorem toChunk_of_ofChunk? (made : ofChunk? file chunk = some row)
    (first : chunk.span.startLine < Word.limit) (last : chunk.span.endLine < Word.limit) :
    row.toChunk = Archive.restore chunk := by
  have isNumber : chunk.confidence.isNaN = false := by
    rw [Bool.eq_false_iff]
    intro nan
    rw [ofChunk?_eq_none nan] at made
    cases made
  obtain ⟨kept, stored, back⟩ := real?_convert isNumber
  rw [ofChunk?, stored] at made
  cases made
  rw [toChunk, Archive.restore, Kind.ofTag?_tag]
  simp only [Word.ofSigned_signed first, Word.ofSigned_signed last, back]
  cases Metadata.ofText? (Metadata.toText chunk.metadata) with
  | none => rfl
  | some metadata => rfl

theorem file_of_mem {chunks : List Chunk} {rows : List ChunkRow}
    (made : chunks.map (ofChunk? file) = rows.map some) (member : row ∈ rows) :
    row.file = file := by
  have listed : some row ∈ chunks.map (ofChunk? file) := made ▸ List.mem_map_of_mem member
  obtain ⟨chunk, _, madeRow⟩ := List.mem_map.mp listed
  exact (columns_of_ofChunk? madeRow).1

theorem mapM_toChunk {chunks : List Chunk} {rows : List ChunkRow}
    (made : chunks.map (ofChunk? file) = rows.map some)
    (words : ∀ chunk ∈ chunks,
      chunk.span.startLine < Word.limit ∧ chunk.span.endLine < Word.limit) :
    rows.mapM toChunk = chunks.mapM Archive.restore := by
  induction chunks generalizing rows with
  | nil =>
    rw [List.map_eq_nil_iff.mp made.symm]
    rfl
  | cons chunk rest inductionHypothesis =>
    cases rows with
    | nil => cases made
    | cons row others =>
      rw [List.map_cons, List.map_cons, List.cons.injEq] at made
      obtain ⟨first, last⟩ := words chunk List.mem_cons_self
      rw [List.mapM_cons, List.mapM_cons, toChunk_of_ofChunk? made.1 first last,
        inductionHypothesis made.2 fun other member => words other (List.mem_cons_of_mem _ member)]

end ChunkRow

/-! ### Statements -/

namespace Tables

variable (tables : Tables)

theorem mem_rowsOf {tables : Tables} {file : String} {row : ChunkRow} :
    row ∈ tables.rowsOf file ↔ row ∈ tables.chunkRows ∧ row.file = file := by
  rw [rowsOf, List.mem_filter, beq_iff_eq]

theorem accepts_eq_true {row : ChunkRow} :
    tables.accepts row = true ↔ tables.files.contains row.file = true ∧
      row.id ∉ (tables.rowsOf row.file).map ChunkRow.id := by
  simp [accepts, mem_rowsOf]

theorem insertChunk_of_taken {file : String} {tables : Tables} {chunk : Chunk}
    (taken : chunk.id ∈ (tables.rowsOf file).map ChunkRow.id ∨ chunk.confidence.isNaN = true) :
    tables.insertChunk file chunk = .error ⟨"Failed to insert chunk " ++ chunk.id, none⟩ := by
  have refused : (ChunkRow.ofChunk? file chunk).filter tables.accepts = none := by
    rw [Option.filter_eq_none_iff]
    intro row made accepted
    obtain ⟨sameFile, sameId, _⟩ := ChunkRow.columns_of_ofChunk? made
    rw [accepts_eq_true, sameFile, sameId] at accepted
    rcases taken with clash | nan
    · exact accepted.2 clash
    · rw [ChunkRow.ofChunk?_eq_none nan] at made
      cases made
  rw [insertChunk, refused]

theorem insertChunk_of_free {file : String} {tables : Tables} {chunk : Chunk}
    (known : tables.files.contains file = true)
    (free : chunk.id ∉ (tables.rowsOf file).map ChunkRow.id)
    (isNumber : chunk.confidence.isNaN = false) :
    ∃ row, ChunkRow.ofChunk? file chunk = some row ∧
      tables.insertChunk file chunk =
        .ok { tables with chunkRows := tables.chunkRows ++ [row] } := by
  obtain ⟨row, made⟩ := ChunkRow.exists_ofChunk? file isNumber
  obtain ⟨sameFile, sameId, _⟩ := ChunkRow.columns_of_ofChunk? made
  have accepted : tables.accepts row = true := by
    rw [accepts_eq_true, sameFile, sameId]
    exact ⟨known, free⟩
  refine ⟨row, made, ?_⟩
  rw [insertChunk, made, Option.filter_some_pos accepted]

/-- The rows of a version are entered up to the first chunk that has no place among them. -/
theorem foldlM_insertChunk {file : String} {tables : Tables}
    (known : tables.files.contains file = true) {seen : List String}
    (taken : ∀ id, id ∈ seen ↔ id ∈ (tables.rowsOf file).map ChunkRow.id) (chunks : List Chunk) :
    (∃ id, Archive.misfit? seen chunks = some id ∧
        chunks.foldlM (insertChunk file) tables =
          .error ⟨"Failed to insert chunk " ++ id, none⟩) ∨
      Archive.misfit? seen chunks = none ∧
        ∃ rows : List ChunkRow, chunks.map (ChunkRow.ofChunk? file) = rows.map some ∧
          chunks.foldlM (insertChunk file) tables =
            .ok { tables with chunkRows := tables.chunkRows ++ rows } := by
  induction chunks generalizing tables seen with
  | nil => exact Or.inr ⟨rfl, [], rfl, by rw [List.append_nil]; rfl⟩
  | cons chunk rest inductionHypothesis =>
    rw [List.foldlM_cons, Archive.misfit?]
    by_cases clash : chunk.id ∈ seen ∨ chunk.confidence.isNaN = true
    · rw [if_pos (by simpa using clash), insertChunk_of_taken (by rwa [← taken])]
      exact Or.inl ⟨chunk.id, rfl, rfl⟩
    · rw [if_neg (by simpa using clash)]
      rw [not_or, taken, Bool.not_eq_true] at clash
      obtain ⟨row, made, entered⟩ := insertChunk_of_free known clash.1 clash.2
      obtain ⟨sameFile, sameId, _⟩ := ChunkRow.columns_of_ofChunk? made
      have takenNow : ∀ id, id ∈ chunk.id :: seen ↔ id ∈ (rowsOf
          { tables with chunkRows := tables.chunkRows ++ [row] } file).map ChunkRow.id := by
        intro id
        have more : rowsOf { tables with chunkRows := tables.chunkRows ++ [row] } file =
            tables.rowsOf file ++ [row] := by
          simp [rowsOf, sameFile]
        rw [more, List.map_append, List.mem_append, ← taken, List.mem_cons, List.map_singleton,
          List.mem_singleton, sameId, or_comm]
      have knownStill : (Tables.files { tables with
          chunkRows := tables.chunkRows ++ [row] }).contains file = true := known
      rw [entered]
      rcases inductionHypothesis knownStill takenNow with
        ⟨id, misfit, failed⟩ | ⟨fits, rows, madeRest, done⟩
      · exact Or.inl ⟨id, misfit, failed⟩
      · refine Or.inr ⟨fits, row :: rows, ?_, ?_⟩
        · rw [List.map_cons, List.map_cons, made, madeRest]
        · refine done.trans ?_
          rw [List.append_assoc]
          rfl

/-- The tables with a version of a file in the place of what they had of the file. -/
def withVersion (version : Version) (text : String) (rows : List ChunkRow) : Tables :=
  { tables with
    files := tables.files.insert version.file ⟨version.toText, text⟩
    chunkRows := tables.chunkRows.filter (·.file != version.file) ++ rows }

/-- A version is entered with all of its rows, or nothing is changed. -/
theorem save_cases (version : Version) (text : String) :
    (∃ id, Archive.misfit? [] version.chunks = some id ∧
        tables.save version text = (.error ⟨"Failed to insert chunk " ++ id, none⟩, tables)) ∨
      Archive.misfit? [] version.chunks = none ∧
        ∃ rows : List ChunkRow,
          version.chunks.map (ChunkRow.ofChunk? version.file) = rows.map some ∧
          tables.save version text = (.ok (), tables.withVersion version text rows) := by
  have known : ((tables.upsert version text).clear version.file).files.contains version.file =
      true := by
    rw [Dictionary.contains, clear, upsert, Dictionary.get?_insert_self]
    rfl
  have cleared : ∀ id, id ∈ ([] : List String) ↔
      id ∈ (((tables.upsert version text).clear version.file).rowsOf version.file).map
        ChunkRow.id := by
    intro id
    simp [rowsOf, clear]
  unfold save enter
  rcases foldlM_insertChunk known cleared version.chunks with
    ⟨id, misfit, failed⟩ | ⟨fits, rows, made, done⟩
  · exact Or.inl ⟨id, misfit, by rw [failed]⟩
  · exact Or.inr ⟨fits, rows, made, by rw [done]; rfl⟩

theorem rowsOf_withVersion_self {version : Version} {rows : List ChunkRow}
    (made : version.chunks.map (ChunkRow.ofChunk? version.file) = rows.map some) (text : String) :
    (tables.withVersion version text rows).rowsOf version.file = rows := by
  rw [rowsOf, withVersion, List.filter_append, List.filter_filter, List.filter_eq_self.mpr
    fun row member => beq_iff_eq.mpr (ChunkRow.file_of_mem made member)]
  simp

theorem rowsOf_withVersion_of_ne {version : Version} {rows : List ChunkRow}
    (made : version.chunks.map (ChunkRow.ofChunk? version.file) = rows.map some) (text : String)
    {file : String} (different : file ≠ version.file) :
    (tables.withVersion version text rows).rowsOf file = tables.rowsOf file := by
  have foreign : rows.filter (·.file == file) = [] :=
    List.filter_eq_nil_iff.mpr fun row member same =>
      different ((beq_iff_eq.mp same).symm.trans (ChunkRow.file_of_mem made member))
  rw [rowsOf, withVersion, List.filter_append, foreign, List.append_nil, List.filter_filter, rowsOf]
  refine List.filter_congr fun row _ => ?_
  rw [Bool.and_eq_left_iff_imp, beq_iff_eq, bne_iff_ne]
  exact fun same => same ▸ different

theorem rowsOf_clear_self (file : String) : (tables.clear file).rowsOf file = [] := by
  simp [rowsOf, clear]

theorem rowsOf_clear_of_ne {file other : String} (different : other ≠ file) :
    (tables.clear file).rowsOf other = tables.rowsOf other := by
  rw [rowsOf, clear, List.filter_filter, rowsOf]
  refine List.filter_congr fun row _ => ?_
  rw [Bool.and_eq_left_iff_imp, beq_iff_eq, bne_iff_ne]
  exact fun same => same ▸ different

/-! ### Tables and archives -/

end Tables

/-- What the table of files has of a file. -/
def Archived.fileRow (archived : Archived) : FileRow :=
  ⟨archived.document, archived.text⟩

namespace Tables

/-- The tables hold what an archive keeps. -/
structure Holds (tables : Tables) (archive : Archive) : Prop where
  files : tables.files.entries = archive.files.entries.map fun entry => (entry.1, entry.2.fileRow)
  rows : ∀ file, ((archive.files.get? file).elim [] Archived.rows).map (ChunkRow.ofChunk? file) =
    (tables.rowsOf file).map some
  lastIndexed : tables.lastIndexed = archive.lastIndexed

theorem holds_empty : Holds {} {} :=
  ⟨rfl, fun _ => rfl, rfl⟩

variable {tables : Tables} {archive : Archive}

theorem Holds.get? (holds : tables.Holds archive) (file : String) :
    tables.files.get? file = (archive.files.get? file).map Archived.fileRow := by
  rw [Dictionary.get?, holds.files, Dictionary.lookup_map]
  rfl

theorem Holds.withVersion (holds : tables.Holds archive) {version : Version}
    {rows : List ChunkRow}
    (made : version.chunks.map (ChunkRow.ofChunk? version.file) = rows.map some) (text : String) :
    (tables.withVersion version text rows).Holds (archive.withSnapshot ⟨version, text⟩) := by
  refine ⟨?_, fun file => ?_, holds.lastIndexed⟩
  · have inserted := Dictionary.insertEntry_map Archived.fileRow version.file
      (Archive.entry ⟨version, text⟩) archive.files.entries
    rw [← holds.files] at inserted
    exact inserted
  · rw [Archive.withSnapshot]
    by_cases same : file = version.file
    · rw [same, tables.rowsOf_withVersion_self made, Dictionary.get?_insert_self]
      exact made
    · rw [tables.rowsOf_withVersion_of_ne made text same, Dictionary.get?_insert_of_ne _ same]
      exact holds.rows file

/-- A version enters the tables just if it enters the archive, and if not, for the same reason. -/
theorem Holds.save (holds : tables.Holds archive) (version : Version) (text : String) :
    (∃ failure, archive.save version text = .error failure ∧
        tables.save version text = (.error failure, tables)) ∨
      ∃ after, archive.save version text = .ok (archive.withSnapshot ⟨version, text⟩) ∧
        tables.save version text = (.ok (), after) ∧
        after.Holds (archive.withSnapshot ⟨version, text⟩) := by
  rcases tables.save_cases version text with ⟨id, misfit, failed⟩ | ⟨fits, rows, made, done⟩
  · exact Or.inl ⟨_, by rw [Archive.save, misfit], failed⟩
  · refine Or.inr ⟨_, ?_, done, holds.withVersion made text⟩
    rw [Archive.save, fits]
    rfl

theorem Holds.delete (holds : tables.Holds archive) (file : String) :
    (tables.delete file).1 = (archive.delete file).1 ∧
      (tables.delete file).2.Holds (archive.delete file).2 := by
  refine ⟨?_, ?_, fun name => ?_, holds.lastIndexed⟩
  · have known := congrArg Option.isSome (holds.get? file)
    rw [Option.isSome_map] at known
    exact known
  · show tables.files.entries.filter (fun entry => entry.1 != file) = _
    rw [holds.files, List.filter_map]
    rfl
  · show ((((archive.files.erase file).get? name).elim [] Archived.rows).map _) =
      ((tables.clear file).rowsOf name).map some
    by_cases same : name = file
    · rw [same, rowsOf_clear_self, Dictionary.get?_erase_self]
      rfl
    · rw [tables.rowsOf_clear_of_ne same, archive.files.get?_erase_of_ne same]
      exact holds.rows name

theorem Holds.load? (holds : tables.Holds archive) (file : String) :
    tables.load? file = archive.load? file := by
  rw [Tables.load?, Archive.load?, holds.get?]
  cases archive.files.get? file with
  | none => rfl
  | some archived => rfl

theorem Holds.loadAll (holds : tables.Holds archive) : tables.loadAll = archive.loadAll := by
  rw [Tables.loadAll, Archive.loadAll, holds.files, List.mapM_map]
  rfl

theorem Holds.list (holds : tables.Holds archive) : tables.list = archive.list := by
  rw [Tables.list, Archive.list, Dictionary.keys, holds.files, List.map_map]
  rfl

/-- The rows of a file are read like the chunks that the archive has of it. -/
theorem Holds.chunks (holds : tables.Holds archive) (file : String)
    (words : ∀ archived ∈ archive.files.get? file, ∀ chunk ∈ archived.rows,
      chunk.span.startLine < Word.limit ∧ chunk.span.endLine < Word.limit) :
    tables.chunks file = archive.chunks file := by
  -- Rows and chunks are sorted by the numbers that they have in common.
  let column (row : Option ChunkRow) : Int := row.elim 0 ChunkRow.startLine
  have shared : ∀ chunk ∈ (archive.files.get? file).elim [] Archived.rows,
      column (ChunkRow.ofChunk? file chunk) = Word.signed chunk.span.startLine := by
    intro chunk member
    have listed := holds.rows file ▸ List.mem_map_of_mem (f := ChunkRow.ofChunk? file) member
    obtain ⟨row, _, made⟩ := List.mem_map.mp listed
    rw [← made]
    exact (ChunkRow.columns_of_ofChunk? made.symm).2.2
  have sorted : (((archive.files.get? file).elim [] Archived.rows).mergeSort fun left right =>
        Word.signed left.span.startLine ≤ Word.signed right.span.startLine).map
          (ChunkRow.ofChunk? file) =
      ((tables.rowsOf file).mergeSort fun left right =>
        left.startLine ≤ right.startLine).map some := by
    rw [@List.map_mergeSort _ _ _ (fun left right => column left ≤ column right)
        (ChunkRow.ofChunk? file) _ ?_,
      @List.map_mergeSort _ _ _ (fun left right => column left ≤ column right) some _ ?_,
      holds.rows file]
    · exact fun _ _ _ _ => rfl
    · intro left leftMember right rightMember
      rw [shared left leftMember, shared right rightMember]
  refine ChunkRow.mapM_toChunk sorted fun chunk member => ?_
  rw [List.mem_mergeSort] at member
  cases found : archive.files.get? file with
  | none =>
    rw [found] at member
    cases member
  | some archived =>
    rw [found] at member
    exact words archived found chunk member

/-- Rows are counted file by file. -/
theorem length_eq_of_files {rows : List ChunkRow} {files : List String} (distinct : files.Nodup)
    (known : ∀ row ∈ rows, row.file ∈ files) :
    rows.length =
      (files.map fun file => (rows.filter (·.file == file)).length).foldr (· + ·) 0 := by
  induction files generalizing rows with
  | nil =>
    cases rows with
    | nil => rfl
    | cons row rest => cases known row List.mem_cons_self
  | cons file rest inductionHypothesis =>
    rw [List.nodup_cons] at distinct
    have others : ∀ row ∈ rows.filter (fun row => !row.file == file), row.file ∈ rest := by
      intro row member
      rw [List.mem_filter, Bool.not_eq_true', beq_eq_false_iff_ne] at member
      exact (List.mem_cons.mp (known row member.1)).resolve_left member.2
    rw [List.length_eq_length_filter_add (·.file == file), inductionHypothesis distinct.2 others,
      List.map_cons, List.foldr_cons]
    congr 2
    refine List.map_congr_left fun name member => ?_
    rw [List.filter_filter]
    refine congrArg List.length (List.filter_congr fun row _ => ?_)
    rw [Bool.and_eq_left_iff_imp, beq_iff_eq, Bool.not_eq_true', beq_eq_false_iff_ne]
    rintro rfl same
    exact distinct.1 (same ▸ member)

theorem Holds.length_chunkRows (holds : tables.Holds archive) :
    tables.chunkRows.length =
      (archive.files.entries.map fun entry => entry.2.rows.length).foldr (· + ·) 0 := by
  have known : ∀ row ∈ tables.chunkRows, row.file ∈ archive.files.keys := by
    intro row member
    rw [Dictionary.mem_keys]
    cases found : archive.files.get? row.file with
    | some archived => rfl
    | none =>
      have rows := holds.rows row.file
      rw [found] at rows
      have empty : tables.rowsOf row.file = [] := List.map_eq_nil_iff.mp rows.symm
      exact absurd (mem_rowsOf.mpr ⟨member, rfl⟩) (by rw [empty]; exact List.not_mem_nil)
  rw [length_eq_of_files (Dictionary.nodup_keys _) known, Dictionary.keys, List.map_map]
  refine congrArg (List.foldr (· + ·) 0) (List.map_congr_left fun entry member => ?_)
  have rows := congrArg List.length (holds.rows entry.1)
  rw [Dictionary.get?_eq_some_iff.mpr member, List.length_map, List.length_map] at rows
  exact rows.symm

theorem Holds.stats (holds : tables.Holds archive) : tables.stats = archive.stats := by
  have files : tables.files.size = archive.files.size := by
    rw [Dictionary.size, holds.files, List.length_map]
    rfl
  rw [Tables.stats, Archive.stats, holds.loadAll, files, holds.length_chunkRows, holds.lastIndexed]

end Tables

end Chunking
