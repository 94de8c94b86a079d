import TestLocator.Batch.Table
import TestLocator.Proofs.Csv.RoundTrip

/-!
# The output read back

The output for some rows is a table with a header that holds these rows and nothing else.

* `OutputRow.ofCells?`, `OutputRow.readAll?` — the rows in a table, by the names in its header;
* `fields_recordsOf_renderRows` — the records of the output;
* **`readAll?_writeRows`** — reading what has been written gives the rows that were written.
-/

namespace TestLocator.Batch

open TestLocator.Csv TestLocator.Files TestLocator.Text

/-! ## Reading rows of the output -/

/-- The cell under a name. -/
def cellUnder? (names cells : List (List Char)) (name : String) : Option String :=
  ((names.zip cells).lookup name.toList).map String.ofList

/-- The row that some cells are under the names of a header: there must be a cell for each name, and a
name for each column. -/
def OutputRow.ofCells? (names cells : List (List Char)) : Option OutputRow :=
  if cells.length = names.length then do
    let filename ← cellUnder? names cells "A (filename)"
    let test ← cellUnder? names cells "B (test)"
    let range ← cellUnder? names cells "C (start: ... end: ....)"
    return ⟨filename, test, range⟩
  else none

/-- The row that the fields of a record are under the names of a header. -/
def OutputRow.ofFields? (names : List (List Char)) (fields : List Bytes) : Option OutputRow :=
  (fields.mapM decode?).bind (OutputRow.ofCells? names)

/-- The rows of a table, of which the first record is the header, if all its records are rows. -/
def OutputRow.readAll? (bs : Bytes) : Option (List OutputRow) :=
  match (recordsOf bs).map (·.fields) with
  | [] => some []
  | header :: records => do records.mapM (OutputRow.ofFields? (← header.mapM decode?))

theorem mapM_some {α : Type} (xs : List α) : xs.mapM some = some xs :=
  (List.mapM_pure (m := Option) (f := id)).trans (congrArg some (List.map_id xs))

theorem mapM_decode?_encode (cells : List (List Char)) :
    (cells.map encode).mapM decode? = some cells := by
  have hdecode : decode? ∘ encode = some := funext decode?_encode
  rw [List.mapM_map, hdecode, mapM_some]

theorem OutputRow.ofCells?_cells (r : OutputRow) :
    OutputRow.ofCells? outputHeader r.cells = some r := by
  have hlength : r.cells.length = outputHeader.length := rfl
  have hfilename : cellUnder? outputHeader r.cells "A (filename)" = some r.filename := by
    simp [cellUnder?, outputHeader, cells]
  have htest : cellUnder? outputHeader r.cells "B (test)" = some r.test := by
    simp [cellUnder?, outputHeader, cells, List.lookup_cons]
  have hrange : cellUnder? outputHeader r.cells "C (start: ... end: ....)" = some r.range := by
    simp [cellUnder?, outputHeader, cells, List.lookup_cons]
  simp [ofCells?, hlength, hfilename, htest, hrange]

theorem OutputRow.ofFields?_cells (r : OutputRow) :
    OutputRow.ofFields? outputHeader (r.cells.map encode) = some r := by
  rw [ofFields?, mapM_decode?_encode, Option.bind_some, ofCells?_cells]

/-! ## The records of the output -/

/-- **The records of the output** are the header and the rows, or none without rows. -/
theorem fields_recordsOf_renderRows (rows : List OutputRow) :
    (recordsOf (encode (renderRows rows))).map (·.fields) =
      if rows = [] then []
      else outputHeader.map encode :: rows.map fun r => r.cells.map encode := by
  cases rows with
  | nil => rfl
  | cons r rows =>
    have hrender : renderRows (r :: rows) =
        (outputHeader :: (r :: rows).map OutputRow.cells).flatMap writeRecord := rfl
    have hne : ∀ fields ∈ outputHeader :: (r :: rows).map OutputRow.cells,
        fields ≠ [] ∧ fields ≠ [[]] := by
      refine List.forall_mem_cons.mpr ⟨by decide, fun fields hfields => ?_⟩
      obtain ⟨row, -, rfl⟩ := List.mem_map.mp hfields
      exact ⟨List.cons_ne_nil _ _, fun e => List.cons_ne_nil _ _ (List.cons.inj e).2⟩
    -- the first byte is that of the header's first letter
    have hfront : Reader.atFront (encode (renderRows (r :: rows))) =
        ({}, encode (renderRows (r :: rows))) := rfl
    rw [hrender] at hfront ⊢
    rw [fields_recordsOf_records hne hfront, if_neg (List.cons_ne_nil r rows), List.map_cons,
      List.map_map]
    rfl

theorem readAll?_renderRows (rows : List OutputRow) :
    OutputRow.readAll? (encode (renderRows rows)) = some rows := by
  rw [OutputRow.readAll?, fields_recordsOf_renderRows]
  split_ifs with h
  · rw [h]
  · have hread : (OutputRow.ofFields? outputHeader ∘ fun r : OutputRow => r.cells.map encode) = some :=
      funext OutputRow.ofFields?_cells
    simp only [mapM_decode?_encode, Option.bind_eq_bind, Option.bind_some]
    rw [List.mapM_map, hread, mapM_some]

/-- **What has been written is read back**, whatever the cells of the rows hold. -/
theorem readAll?_writeRows (destination : Path) (rows : List OutputRow) :
    ∃ written, writeRows {} destination rows = (written, .ok ()) ∧
      OutputRow.readAll? written = some rows ∧
      (recordsOf written).map (·.fields) =
        (if rows = [] then []
          else outputHeader.map encode :: rows.map fun r => r.cells.map encode) ∧
      (written = [] ↔ rows = []) := by
  refine ⟨encode (renderRows rows), rfl, readAll?_renderRows rows,
    fields_recordsOf_renderRows rows, fun hnone => ?_, fun hnone => by rw [hnone]; rfl⟩
  have hread := readAll?_renderRows rows
  rw [hnone] at hread
  exact (Option.some.inj hread).symm

end TestLocator.Batch
