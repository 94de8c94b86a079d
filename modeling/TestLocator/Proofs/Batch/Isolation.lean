import Mathlib.Data.List.Induction
import TestLocator.Batch.Process
import TestLocator.Files.Memory

/-!
# Rows by themselves

The result for a row depends on the row, the project root, the marker and the row's own file only.

* `AgreesOn`, `locate_congr`, `processRow_congr` — what the result for an entry is taken from;
* `fillPlace`, `processInOrder`, `getElem?_processInOrder` — rows that are processed in some order,
  each result put into the place of its row;
* `processInOrder_eq` — in any order the results are the same;
* **`processRows_isolated`** — an entry has the same result in two batches.
-/

namespace TestLocator.Batch

open TestLocator.Files TestLocator.Locating

/-! ## The result for a row -/

/-- Two views tell the same of a path. -/
structure AgreesOn (files files' : FileView) (path : Path) : Prop where
  isThere_eq : files'.isThere path = files.isThere path
  read_eq : files'.read path = files.read path

theorem locate_congr {files files' : FileView} {path : Path} (h : AgreesOn files files' path)
    (line : Nat) (marker : String) :
    locate files' path line marker = locate files path line marker := by
  simp only [locate, loadDocument, h.isThere_eq, h.read_eq]

/-- The path that is read for an entry: none, if it has no path or no line. -/
def fileOf? (root : Path) (entry : InputRow) : Option Path :=
  match entry with
  | .error _ => none
  | .ok row =>
    match row.resolvePath root, row.targetLine with
    | .ok path, .ok _ => some path
    | _, _ => none

theorem processRow_congr {files files' : FileView} {options options' : BatchOptions}
    {entry : InputRow} (hroot : options'.projectRoot = options.projectRoot)
    (hmarker : options'.marker = options.marker)
    (h : ∀ path, fileOf? options.projectRoot entry = some path → AgreesOn files files' path) :
    processRow files' options' entry = processRow files options entry := by
  cases entry with
  | error e => rfl
  | ok row =>
    simp only [processRow, hroot, hmarker]
    cases hpath : row.resolvePath options.projectRoot with
    | error e => rfl
    | ok path =>
      cases hline : row.targetLine with
      | error e => rfl
      | ok line =>
        have hagrees := h path (by simp [fileOf?, hpath, hline])
        simp only [locate_congr hagrees]

/-! ## Any order -/

/-- Process the row at an index and put the result into its place. -/
def fillPlace (files : FileView) (options : BatchOptions) (rows : List InputRow)
    (places : List (Option (OutputRow × RowStatus))) (i : Nat) :
    List (Option (OutputRow × RowStatus)) :=
  match rows[i]? with
  | some entry => places.set i (some (processRow files options entry))
  | none => places

/-- A place for each row, after the rows at some indices have been processed one after the other. -/
def processInOrder (files : FileView) (options : BatchOptions) (rows : List InputRow)
    (order : List Nat) : List (Option (OutputRow × RowStatus)) :=
  order.foldl (fillPlace files options rows) (List.replicate rows.length none)

variable {files : FileView} {options : BatchOptions} {rows : List InputRow}

theorem length_fillPlace (places : List (Option (OutputRow × RowStatus))) (i : Nat) :
    (fillPlace files options rows places i).length = places.length := by
  unfold fillPlace
  split
  · exact List.length_set
  · rfl

/-- Processing a row changes its own place only. -/
theorem getElem?_fillPlace {places : List (Option (OutputRow × RowStatus))}
    (hlength : places.length = rows.length) (i j : Nat) :
    (fillPlace files options rows places i)[j]? =
      if j = i then rows[j]?.map fun entry => some (processRow files options entry)
      else places[j]? := by
  unfold fillPlace
  by_cases hj : j = i
  · subst hj
    rw [if_pos rfl]
    cases hrow : rows[j]? with
    | none =>
      have hle := List.getElem?_eq_none_iff.mp hrow
      exact List.getElem?_eq_none_iff.mpr (hlength ▸ hle)
    | some entry =>
      have hlt : j < places.length := hlength ▸ (List.getElem?_eq_some_iff.mp hrow).1
      simp [hlt]
  · rw [if_neg hj]
    cases rows[i]? with
    | none => rfl
    | some entry => exact List.getElem?_set_ne (Ne.symm hj)

theorem processInOrder_concat (order : List Nat) (i : Nat) :
    processInOrder files options rows (order ++ [i]) =
      fillPlace files options rows (processInOrder files options rows order) i :=
  List.foldl_append

theorem length_processInOrder (order : List Nat) :
    (processInOrder files options rows order).length = rows.length := by
  induction order using List.reverseRecOn with
  | nil => exact List.length_replicate
  | append_singleton order i ih =>
    rw [processInOrder_concat]
    exact (length_fillPlace _ i).trans ih

theorem getElem?_processInOrder (order : List Nat) (j : Nat) :
    (processInOrder files options rows order)[j]? =
      rows[j]?.map fun entry => if j ∈ order then some (processRow files options entry) else none := by
  induction order using List.reverseRecOn with
  | nil =>
    rw [processInOrder, List.foldl_nil, List.getElem?_replicate]
    by_cases hj : j < rows.length <;> simp [hj]
  | append_singleton order i ih =>
    rw [processInOrder_concat, getElem?_fillPlace (length_processInOrder order), ih]
    by_cases hj : j = i <;> simp [hj]

/-- **A row by itself.** Its result hangs on the row and on the file that is read for it. -/
theorem processRows_isolated (files files' : FileView) (options options' : BatchOptions)
    (rows rows' : List InputRow) (i i' : Nat) (entry : InputRow)
    (hroot : options'.projectRoot = options.projectRoot)
    (hmarker : options'.marker = options.marker)
    (hdir : files.isDirectory options.projectRoot = true)
    (hdir' : files'.isDirectory options'.projectRoot = true)
    (hrow : rows[i]? = some entry) (hrow' : rows'[i']? = some entry)
    (hfiles : ∀ path, fileOf? options.projectRoot entry = some path → AgreesOn files files' path) :
    ∃ results results' result, processRows files rows options = .ok results ∧
      processRows files' rows' options' = .ok results' ∧
      results[i]? = some result ∧ results'[i']? = some result ∧
      (∀ order, i ∈ order → (processInOrder files options rows order)[i]? = some (some result)) ∧
      ∀ order, i' ∈ order →
        (processInOrder files' options' rows' order)[i']? = some (some result) := by
  have hsame := processRow_congr hroot hmarker hfiles
  refine ⟨rows.map (processRow files options), rows'.map (processRow files' options'),
    processRow files options entry, by rw [processRows, if_pos hdir],
    by rw [processRows, if_pos hdir'], ?_, ?_, fun order hmem => ?_, fun order hmem => ?_⟩
  · rw [List.getElem?_map, hrow, Option.map_some]
  · rw [List.getElem?_map, hrow', Option.map_some, hsame]
  · rw [getElem?_processInOrder, hrow, Option.map_some, if_pos hmem]
  · rw [getElem?_processInOrder, hrow', Option.map_some, if_pos hmem, hsame]

/-- A row that stands alone, and behind a broken row and beside another script. -/
theorem processRows_isolated_second_batch :
    let script : Path × String := (⟨"/projects/calc/sum.test.js"⟩, "it('adds', f);\n")
    let files : FileView := MemoryFiles.view ⟨[script]⟩
    let files' : FileView := MemoryFiles.view ⟨[(⟨"/projects/calc/b.js"⟩, "x;\n"), script]⟩
    let entry : InputRow := .ok ⟨some "o/calc", some "/sum.test.js", some "1"⟩
    let first : InputRow := .error (.malformedInput "undecodable")
    fileOf? ⟨"/projects"⟩ entry = some script.1 ∧ AgreesOn files files' script.1 ∧
      ∃ results results' result,
        processRows files [entry] { projectRoot := ⟨"/projects"⟩ } = .ok results ∧
        processRows files' [first, entry] { projectRoot := ⟨"/projects"⟩, parallel := false } =
          .ok results' ∧
        results[0]? = some result ∧ results'[1]? = some result := by
  intro script files files' entry first
  have hpath : fileOf? ⟨"/projects"⟩ entry = some script.1 := by decide +kernel
  have hread : ∀ {m : MemoryFiles}, m.find? script.1 = some script.2 →
      m.view.read script.1 = .ok script.2 := fun h => by simp only [MemoryFiles.view, MemoryFiles.read, h]
  have hagrees : AgreesOn files files' script.1 :=
    ⟨by decide +kernel, (hread (by decide +kernel)).trans (hread (by decide +kernel)).symm⟩
  obtain ⟨results, results', result, hresults, hresults', hresult, hresult', -⟩ :=
    processRows_isolated files files' { projectRoot := ⟨"/projects"⟩ }
      { projectRoot := ⟨"/projects"⟩, parallel := false } [entry] [first, entry] 0 1 entry rfl rfl
      (by decide +kernel) (by decide +kernel) rfl rfl
      fun path h => by cases hpath.symm.trans h; exact hagrees
  exact ⟨hpath, hagrees, results, results', result, hresults, hresults', hresult, hresult'⟩

end TestLocator.Batch
