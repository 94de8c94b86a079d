import Mathlib.Data.List.Forall2
import TestLocator.Proofs.Batch.Columns
import TestLocator.Proofs.Batch.Reading
import TestLocator.Proofs.Csv.RoundTrip
import TestLocator.Proofs.Csv.TextFields

/-!
# Reading datasets

An input is read by the names in its header. Where the rows are as wide as the header, columns may
stand in any order and others may stand between them; a row that is too short is another matter.

* `cellsOf`, `readRows_text`, `inputRow_text` — the rows of an input that is a text;
* `IsDataset`, `map_cellsOf_recordsOf` — a table of some width, in whatever way it is written;
* **`readRows_dataset`** — its rows, which are those of every table with the same cells in the
  columns that count;
* **`readRows_ragged`** — a row that is too short is kept exactly if no column that does not count
  is missing from it.
-/

namespace TestLocator.Batch

open TestLocator.Csv TestLocator.Files TestLocator.Text

/-! ## Inputs that are texts -/

/-- The text of a field, nothing if it is none. -/
def cellText (field : Bytes) : String := String.ofList ((decode? field).getD [])

/-- The cells of a record. -/
def cellsOf (r : Record) : List String := r.fields.map cellText

theorem cellText_encode (cs : List Char) : cellText (encode cs) = String.ofList cs := by
  rw [cellText, decode?_encode, Option.getD_some]

theorem map_cellBytes_cellsOf {r : Record} (h : ∀ f ∈ r.fields, IsText f) :
    (cellsOf r).map cellBytes = r.fields := by
  rw [cellsOf, List.map_map]
  conv_rhs => rw [← List.map_id r.fields]
  refine List.map_congr_left fun f hf => ?_
  obtain ⟨cs, rfl⟩ := h f hf
  simp [cellBytes, cellText_encode]

variable {text : String} {header : Record} {records : List Record}

theorem headerNames?_text (hheader : header ∈ recordsOf (encode text.toList)) :
    headerNames? header = some (cellsOf header) :=
  headerNames?_of_fields (map_cellBytes_cellsOf (isText_of_mem_recordsOf hheader)).symm

theorem readRows_text (source : Path)
    (htable : recordsOf (encode text.toList) = header :: records) :
    readRows { bytes := encode text.toList } source =
      .ok (records.map (inputRow (some (cellsOf header)))) := by
  have hheader : header ∈ recordsOf (encode text.toList) := htable ▸ List.mem_cons_self
  rw [readRows_whole, htable, rowsOf, headerNames?_text hheader]

theorem inputRow_text {names : List String} (hnames : NamesColumns names) {r : Record}
    (hr : r ∈ recordsOf (encode text.toList)) :
    (¬ LacksUnknown names (cellsOf r) →
      inputRow (some names) r = .ok (rowUnder names (cellsOf r))) ∧
    (LacksUnknown names (cellsOf r) →
      inputRow (some names) r = .error (undecodableRow r.mark .endOfRow)) := by
  have hfields := (map_cellBytes_cellsOf (isText_of_mem_recordsOf hr)).symm
  obtain ⟨hrow, hlack⟩ := decodeRow_eq hnames hfields
  exact ⟨fun h => by rw [inputRow, hrow h], fun h => by rw [inputRow, hlack h]⟩

/-! ## Rows as wide as the header -/

/-- A text is a table whose header names each of the columns that count once, among any others, and
whose rows are as wide as the header or wider. -/
structure IsDataset (names : List String) (rows : List (List String)) (text : String) : Prop where
  spells : SpellsTable ((names :: rows).map (List.map String.toList)) text.toList
  no_mark : text.toList.head? ≠ some '\uFEFF'
  names_columns : NamesColumns names
  wide : ∀ cells ∈ rows, names.length ≤ cells.length

variable {names : List String} {rows : List (List String)}

theorem map_cellsOf_recordsOf (h : IsDataset names rows text) :
    (recordsOf (encode text.toList)).map cellsOf = names :: rows := by
  have hfields := fields_recordsOf_spelling h.spells (atFront_encode h.no_mark)
  have hcells : List.map cellText ∘ List.map encode ∘ List.map String.toList = id := by
    funext cells
    simp [Function.comp_def, cellText_encode]
  have hmap := congrArg (List.map (List.map cellText)) hfields
  rw [List.map_map, List.map_map, List.map_map, Function.comp_assoc, hcells, List.map_id] at hmap
  exact hmap

theorem not_lacksUnknown_of_le {cells : List String} (h : names.length ≤ cells.length) :
    ¬ LacksUnknown names cells := by
  rintro ⟨name, hname, -⟩
  rw [List.drop_eq_nil_of_le h] at hname
  exact List.not_mem_nil hname

theorem readRows_eq_rowUnder (h : IsDataset names rows text) (source : Path) :
    readRows { bytes := encode text.toList } source =
      .ok (rows.map fun cells => .ok (rowUnder names cells)) := by
  obtain ⟨header, records, htable, rfl, rfl⟩ := List.map_eq_cons_iff.mp (map_cellsOf_recordsOf h)
  rw [readRows_text source htable, List.map_map]
  refine congrArg Except.ok (List.map_congr_left fun r hr => ?_)
  have hmem : r ∈ recordsOf (encode text.toList) := htable ▸ List.mem_cons_of_mem header hr
  exact (inputRow_text h.names_columns hmem).1
    (not_lacksUnknown_of_le (h.wide _ (List.mem_map_of_mem hr)))

/-- **Columns count by their names**, whatever their order and whatever other columns there are. -/
theorem readRows_dataset (h : IsDataset names rows text) (source : Path) :
    readRows { bytes := encode text.toList } source =
      .ok (rows.map fun cells => .ok (rowUnder names cells)) ∧
    ∀ names' rows' text', IsDataset names' rows' text' →
      List.Forall₂ (fun cells cells' => (knownCells names cells).Perm (knownCells names' cells'))
        rows rows' →
      readRows { bytes := encode text'.toList } source =
        readRows { bytes := encode text.toList } source := by
  refine ⟨readRows_eq_rowUnder h source, fun names' rows' text' h' hrows => ?_⟩
  rw [readRows_eq_rowUnder h source, readRows_eq_rowUnder h' source]
  refine congrArg Except.ok (List.forall₂_eq_eq_eq ▸ ?_)
  rw [List.forall₂_map_left_iff, List.forall₂_map_right_iff]
  refine hrows.flip.imp fun cells' cells hperm => ?_
  rw [rowUnder_eq_of_perm h.names_columns h'.names_columns hperm]

/-- A table with columns in another order, a cell too many and quotes that are not needed. -/
theorem readRows_dataset_reordered :
    let names := ["Type", "Lines", "File", "Repository"]
    let rows := [["a,b", "3", "/a.js", "o/c", "more"], ["", "", "/b.js", "r"]]
    let text := "Type,Lines,File,Repository\r\"a,b\",3,/a.js,o/c,more\r\n\"\",,/b.js,r"
    let names' := ["Repository", "File", "Lines"]
    let rows' := [["o/c", "/a.js", "3"], ["r", "/b.js", ""]]
    let text' := "Repository,File,Lines\no/c,/a.js,3\nr,/b.js,\n"
    IsDataset names rows text ∧ IsDataset names' rows' text' ∧
      readRows { bytes := encode text.toList } ⟨"in.csv"⟩ =
        .ok [.ok ⟨some "o/c", some "/a.js", some "3"⟩, .ok ⟨some "r", some "/b.js", none⟩] ∧
      readRows { bytes := encode text'.toList } ⟨"in.csv"⟩ =
        readRows { bytes := encode text.toList } ⟨"in.csv"⟩ := by
  intro names rows text names' rows' text'
  have hline (cells : List String) (hne : cells.map String.toList ≠ []) :=
    spellsRecord_intercalate hne
  have hlast : SpellsRecord (["", "", "/b.js", "r"].map String.toList) "\"\",,/b.js,r".toList :=
    (congrArg (SpellsRecord _) (by decide +kernel : _ = "\"\",,/b.js,r".toList)).mp
      (.comma .quoted (hline ["", "/b.js", "r"] (by decide)))
  have hspells : SpellsTable ((names :: rows).map (List.map String.toList)) text.toList :=
    (congrArg (SpellsTable _) (by decide +kernel : _ = text.toList)).mp
      (.line (hline names (by decide)) (by decide) (.tail _ (.head _))
        (.line (hline ["a,b", "3", "/a.js", "o/c", "more"] (by decide)) (by decide)
          (.tail _ (.tail _ (.head _))) (.last hlast (by decide))))
  have hspells' : SpellsTable ((names' :: rows').map (List.map String.toList)) text'.toList :=
    (congrArg (SpellsTable _) (by decide +kernel : _ = text'.toList)).mp
      (spellsTable_flatMap_writeRecord (by decide))
  have h : IsDataset names rows text := ⟨hspells, by decide, by decide, by decide⟩
  have h' : IsDataset names' rows' text' := ⟨hspells', by decide, by decide, by decide⟩
  obtain ⟨hread, hsame⟩ := readRows_dataset h ⟨"in.csv"⟩
  exact ⟨h, h', hread, hsame names' rows' text' h' (by decide)⟩

/-! ## Rows that are too short -/

/-- **A row that is too short** is a row as long as it lacks only columns that count. -/
theorem readRows_ragged (source : Path)
    (htable : recordsOf (encode text.toList) = header :: records)
    (hnames : NamesColumns (cellsOf header)) :
    ∃ entries, readRows { bytes := encode text.toList } source = .ok entries ∧
      List.Forall₂ (fun r entry =>
        (entry = .ok (rowUnder (cellsOf header) (cellsOf r)) ↔
          ¬ LacksUnknown (cellsOf header) (cellsOf r)) ∧
        (entry = .error (undecodableRow r.mark .endOfRow) ↔
          LacksUnknown (cellsOf header) (cellsOf r))) records entries := by
  refine ⟨_, readRows_text source htable, ?_⟩
  rw [List.forall₂_map_right_iff, List.forall₂_same]
  intro r hr
  have hmem : r ∈ recordsOf (encode text.toList) := htable ▸ List.mem_cons_of_mem header hr
  obtain ⟨hrow, hlack⟩ := inputRow_text hnames hmem
  by_cases h : LacksUnknown (cellsOf header) (cellsOf r)
  · simp [hlack h, h]
  · simp [hrow h, h]

/-- The first row lacks its last cell, the second one that of a note too. -/
theorem readRows_ragged_note :
    let text := "Type,Repository,File,Note,Lines\nx,o/c,/a.js,n\nx,o/c\n"
    readRows { bytes := encode text.toList } ⟨"in.csv"⟩ =
      .ok [.ok ⟨some "o/c", some "/a.js", none⟩, .error (undecodableRow ⟨2, 3, 46⟩ .endOfRow)] := by
  intro text
  have htable : recordsOf (encode text.toList) =
      [⟨⟨0, 1, 0⟩, ["Type", "Repository", "File", "Note", "Lines"].map cellBytes⟩,
        ⟨⟨1, 2, 32⟩, ["x", "o/c", "/a.js", "n"].map cellBytes⟩,
        ⟨⟨2, 3, 46⟩, ["x", "o/c"].map cellBytes⟩] := by decide +kernel
  obtain ⟨entries, hread, hentries⟩ := readRows_ragged ⟨"in.csv"⟩ htable (by decide +kernel)
  obtain ⟨first, rest, ⟨hfirst, -⟩, hrest, rfl⟩ := List.forall₂_cons_left_iff.mp hentries
  obtain ⟨second, nothing, ⟨-, hsecond⟩, hnothing, rfl⟩ := List.forall₂_cons_left_iff.mp hrest
  obtain rfl := List.forall₂_nil_left_iff.mp hnothing
  rw [hread, hfirst.mpr (by decide +kernel), hsecond.mpr (by decide +kernel)]
  decide +kernel

/-- So a row with all that counts is lost where it lacks the cell of another column. -/
theorem readRows_ragged_last_unknown :
    let text := "Repository,File,Lines,Type\no/c,/a.js,1\n"
    rowUnder ["Repository", "File", "Lines", "Type"] ["o/c", "/a.js", "1"] =
        ⟨some "o/c", some "/a.js", some "1"⟩ ∧
      readRows { bytes := encode text.toList } ⟨"in.csv"⟩ =
        .ok [.error (.malformedInput ("undecodable row: CSV deserialize error: record 1 " ++
          "(line: 2, byte: 27): expected field, but got end of row"))] := by
  intro text
  refine ⟨by decide, ?_⟩
  rw [readRows_whole]
  decide +kernel

end TestLocator.Batch
