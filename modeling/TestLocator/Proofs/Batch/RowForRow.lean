import Mathlib.Data.List.Forall2
import TestLocator.Files.Memory
import TestLocator.Proofs.Batch.Output
import TestLocator.Proofs.Batch.Reading

/-!
# A row for every row

A batch writes one row for every record of its input behind the header, in the same order.

* `Decodes` — the entry that a record of the input gives;
* `Answers`, `answers_processRow` — the row of the output that answers an entry;
* `processRows_eq_error_iff` — when rows are not processed at all;
* **`batch_row_for_row`** — the records of the input, the entries, and the rows read back from the
  output go together one by one.
-/

namespace TestLocator.Batch

open TestLocator.Csv TestLocator.Files TestLocator.Locating TestLocator.Text

/-- What a record of the input gives under the names of a header: a row, or a failure that says that
the input is malformed. -/
inductive Decodes (names : Option (List String)) (r : Record) : InputRow → Prop
  | row {row : SmellRow} : decodeRow names r = .ok row → Decodes names r (.ok row)
  | undecodable {fault : CellFault} {e : Failure} : decodeRow names r = .error fault →
    e.kind = .malformedInput → Decodes names r (.error e)

/-- What the output says to an entry of the input. -/
inductive Answers (files : FileView) (options : BatchOptions) : InputRow → OutputRow → Prop
  | undecodable (e : Failure) :
    Answers files options (.error e) ⟨"Invalid file path", "Error: " ++ e.message, ""⟩
  | noPath {row : SmellRow} {e : Failure} : row.resolvePath options.projectRoot = .error e →
    Answers files options (.ok row) ⟨"Invalid file path", "Error: " ++ e.message, ""⟩
  | noLine {row : SmellRow} {path : Path} {e : Failure} :
    row.resolvePath options.projectRoot = .ok path → row.targetLine = .error e →
    Answers files options (.ok row) ⟨path.text, "Error: " ++ e.message, ""⟩
  | notFound {row : SmellRow} {path : Path} {line : Nat} {e : Failure} :
    row.resolvePath options.projectRoot = .ok path → row.targetLine = .ok line →
    locate files path line options.marker = .error e →
    Answers files options (.ok row) ⟨path.text, e.message, ""⟩
  | found {row : SmellRow} {path : Path} {line : Nat} {b : TestBlock} :
    row.resolvePath options.projectRoot = .ok path → row.targetLine = .ok line →
    locate files path line options.marker = .ok b →
    Answers files options (.ok row)
      ⟨path.text, b.text, s!"start: {b.startLine} end: {b.endLine}"⟩

variable {files : FileView} {options : BatchOptions}

theorem decodes_inputRow (names : Option (List String)) (r : Record) :
    Decodes names r (inputRow names r) := by
  unfold inputRow
  cases h : decodeRow names r with
  | ok row => exact .row h
  | error fault => exact .undecodable h rfl

theorem answers_processRow (files : FileView) (options : BatchOptions) (entry : InputRow) :
    Answers files options entry (processRow files options entry).1 := by
  unfold processRow
  cases entry with
  | error e => exact .undecodable e
  | ok row =>
    cases hpath : row.resolvePath options.projectRoot with
    | error e => simpa [hpath] using .noPath hpath
    | ok path =>
      cases hline : row.targetLine with
      | error e => simpa [hpath, hline] using .noLine hpath hline
      | ok line =>
        cases hlocate : locate files path line options.marker with
        | error e => simpa [hpath, hline, hlocate] using .notFound hpath hline hlocate
        | ok b => simpa [hpath, hline, hlocate] using .found hpath hline hlocate

theorem processRows_eq_error_iff (entries : List InputRow) :
    (∃ e, processRows files entries options = .error e) ↔
      files.isDirectory options.projectRoot = false := by
  unfold processRows
  cases files.isDirectory options.projectRoot <;> simp

theorem length_records_renderRows (rows : List OutputRow) :
    (recordsOf (encode (renderRows rows))).tail.length = rows.length := by
  have h := congrArg (fun records => records.tail.length) (fields_recordsOf_renderRows rows)
  cases rows <;> simpa using h

theorem length_rowsOf (records : List Record) : (rowsOf records).length = records.tail.length := by
  cases records <;> simp [rowsOf]

/-- **A batch answers row for row**, if the project root is a directory and only then. -/
theorem batch_row_for_row (bytes : Bytes) (source destination : Path) (files : FileView)
    (options : BatchOptions) :
    (∀ entries, (∃ e, processRows files entries options = .error e) ↔
      files.isDirectory options.projectRoot = false) ∧
    ∃ entries, readRows { bytes } source = .ok entries ∧
      List.Forall₂ (Decodes ((recordsOf bytes).head?.bind headerNames?)) (recordsOf bytes).tail
        entries ∧
      (files.isDirectory options.projectRoot = true →
        ∃ results written rows, processRows files entries options = .ok results ∧
          writeRows {} destination (results.map (·.1)) = (written, .ok ()) ∧
          (recordsOf written).tail.length = (recordsOf bytes).tail.length ∧
          OutputRow.readAll? written = some rows ∧
          List.Forall₂ (Answers files options) entries rows) := by
  refine ⟨processRows_eq_error_iff, rowsOf (recordsOf bytes), readRows_whole bytes source, ?_, ?_⟩
  · cases recordsOf bytes with
    | nil => exact .nil
    | cons header records =>
      exact List.forall₂_map_right_iff.mpr
        (List.forall₂_same.mpr fun r _ => decodes_inputRow (headerNames? header) r)
  · intro hroot
    obtain ⟨entries, hentries⟩ : ∃ entries, rowsOf (recordsOf bytes) = entries := ⟨_, rfl⟩
    have hlength := length_rowsOf (recordsOf bytes)
    rw [hentries] at hlength ⊢
    obtain ⟨results, hresults⟩ : ∃ results, entries.map (processRow files options) = results :=
      ⟨_, rfl⟩
    refine ⟨results, encode (renderRows (results.map (·.1))), results.map (·.1), ?_, rfl, ?_,
      readAll?_renderRows _, ?_⟩
    · rw [processRows, if_pos hroot, hresults]
    · rw [length_records_renderRows, ← hlength, ← hresults, List.length_map, List.length_map]
    · rw [← hresults, List.map_map]
      exact List.forall₂_map_right_iff.mpr
        (List.forall₂_same.mpr fun entry _ => answers_processRow files options entry)

/-! ## A sample -/

/-- The files of a project with a single script. -/
def sampleFiles : MemoryFiles := ⟨[(⟨"/projects/calc/sum.test.js"⟩, "it('adds', f);\n")]⟩

/-- Four rows: one that is no text, one without a repository, one with a position that is none, and one
with a file that is not there. -/
def sampleInput : Bytes :=
  encode "Repository,File,Lines\r\n".toList ++ [0xFF] ++ encode ",a.js,1\n,a.js,1\n".toList ++
    encode "o/calc,/sum.test.js,0\no/calc,\"b.js\",2".toList

/-- What the output says to the rows of the sample. -/
def sampleOutput : List OutputRow :=
  [⟨"Invalid file path", "Error: Malformed input: undecodable row: CSV parse error: record 1 " ++
      "(line 1, field: 0, byte: 22): invalid utf-8: invalid UTF-8 in field 0 near byte index 0", ""⟩,
    ⟨"Invalid file path", "Error: Malformed input: missing \"Repository\" field", ""⟩,
    ⟨"/projects/calc/sum.test.js", "Error: Malformed input: invalid \"Lines\" field format", ""⟩,
    ⟨"/projects/calc/b.js", "File not found: /projects/calc/b.js", ""⟩]

/-- The batch of the sample. -/
def sampleOptions : BatchOptions := { projectRoot := ⟨"/projects"⟩ }

/-- Of the sample, no row is lost and none is moved. -/
theorem batch_row_for_row_sample :
    sampleFiles.view.isDirectory sampleOptions.projectRoot = true ∧
      ∃ entries results written, readRows { bytes := sampleInput } ⟨"in.csv"⟩ = .ok entries ∧
        processRows sampleFiles.view entries sampleOptions = .ok results ∧
        writeRows {} ⟨"out.csv"⟩ (results.map (·.1)) = (written, .ok ()) ∧
        OutputRow.readAll? written = some sampleOutput ∧
        List.Forall₂ (Answers sampleFiles.view sampleOptions) entries sampleOutput := by
  have hroot : sampleFiles.view.isDirectory sampleOptions.projectRoot = true := by decide +kernel
  obtain ⟨-, entries, hread, -, hbatch⟩ := batch_row_for_row sampleInput ⟨"in.csv"⟩ ⟨"out.csv"⟩
    sampleFiles.view sampleOptions
  obtain ⟨results, written, rows, hprocess, hwrite, -, hrows, hanswers⟩ := hbatch hroot
  have hentries : rowsOf (recordsOf sampleInput) = entries :=
    Except.ok.inj ((readRows_whole _ _).symm.trans hread)
  have hresults : entries.map (processRow sampleFiles.view sampleOptions) = results := by
    rw [processRows, if_pos hroot] at hprocess
    exact Except.ok.inj hprocess
  have houtput : results.map (·.1) = sampleOutput := by
    rw [← hresults, ← hentries]
    decide +kernel
  have hsame : rows = sampleOutput := by
    rw [← (Prod.mk.inj hwrite).1, houtput, readAll?_renderRows] at hrows
    exact (Option.some.inj hrows).symm
  rw [hsame] at hrows hanswers
  exact ⟨hroot, entries, results, written, hread, hprocess, hwrite, hrows, hanswers⟩

end TestLocator.Batch
