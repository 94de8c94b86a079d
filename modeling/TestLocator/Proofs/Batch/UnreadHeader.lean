import TestLocator.Proofs.Batch.Datasets

/-!
# Headers that cannot be read

Where the header of a table is a text, a value is taken from nowhere but from under the name of its
column. Where it is none, the first cells are taken for the columns, whatever the header says of them.

* `decodeFields_of_isText`, `exists_fault_of_not_isText`, `headerNames?_eq` — fields that are texts and
  fields that are not;
* `StandsUnder`, `standsUnder_of_decodeRow` — values under the names of columns;
* `rowByPlace`, `decodeRow_by_place` — values in the first places of a record;
* **`readRows_by_header`** — where the values of the rows come from.
-/

namespace TestLocator.Batch

open TestLocator.Csv TestLocator.Files TestLocator.Locating TestLocator.Text

variable {header r : Record} {row : SmellRow}

/-! ## Fields -/

theorem decodeFields_of_isText (n : Nat) (h : ∀ f ∈ r.fields, IsText f) :
    decodeFields n r.fields = .ok ((cellsOf r).map String.toList) := by
  rw [← map_cellBytes_cellsOf h, decodeFields_cellBytes]

theorem exists_fault_of_not_isText {fields : List Bytes} (n : Nat)
    (h : ∃ f ∈ fields, ¬ IsText f) : ∃ fault, decodeFields n fields = .error fault := by
  induction fields generalizing n with
  | nil => simp at h
  | cons f fs ih =>
    rw [decodeFields]
    cases hf : decode? f with
    | none => exact ⟨_, rfl⟩
    | some cs =>
      have htext : IsText f := ⟨cs, decode?_eq_some_iff.mp hf⟩
      obtain ⟨g, hg, hnot⟩ := h
      have hrest : ∃ g ∈ fs, ¬ IsText g := by
        rcases List.mem_cons.mp hg with rfl | hg
        · exact absurd htext hnot
        · exact ⟨g, hg, hnot⟩
      obtain ⟨fault, hfault⟩ := ih (n + 1) hrest
      exact ⟨fault, by rw [hfault]; rfl⟩

theorem headerNames?_eq (header : Record) :
    headerNames? header = if ∀ f ∈ header.fields, IsText f then some (cellsOf header) else none := by
  split_ifs with h
  · exact headerNames?_of_fields (map_cellBytes_cellsOf h).symm
  · obtain ⟨fault, hfault⟩ := exists_fault_of_not_isText 0 (by simpa using h)
    rw [headerNames?, hfault]

/-! ## Values under names -/

/-- A value stands in a record under a name of the header: it fills the cell in the place that the name
has in the header. -/
def StandsUnder (header r : Record) (name value : String) : Prop :=
  value ≠ "" ∧ (cellBytes name, cellBytes value) ∈ header.fields.zip r.fields

theorem mem_zip_of_decodeNamed {row row' : SmellRow} {seen : List Column} {names : List String}
    {cells : List (List Char)} (h : decodeNamed row seen names cells = .ok row') {c : Column}
    {value : String} (hvalue : row'.cell c = some value) :
    row.cell c = some value ∨
      ∃ cell, cellValue cell = some value ∧ (c.name, cell) ∈ names.zip cells := by
  fun_induction decodeNamed row seen names cells with
  | case1 row seen cells =>
    cases h
    exact .inl hvalue
  | case2 => cases h
  | case3 row seen name names hname cell cells ih =>
    obtain hrow | ⟨cell', hcell, hmem⟩ := ih h
    · exact .inl hrow
    · exact .inr ⟨cell', hcell, List.mem_cons_of_mem _ hmem⟩
  | case4 => cases h
  | case5 row seen name names c' hname _ ih =>
    obtain hrow | ⟨cell', -, hmem⟩ := ih h
    · exact .inl hrow
    · rw [List.zip_nil_right] at hmem
      cases hmem
  | case6 row seen name names c' hname _ cell cells ih =>
    obtain hrow | ⟨cell', hcell, hmem⟩ := ih h
    · rw [cell_setCell] at hrow
      split_ifs at hrow with hc
      · refine .inr ⟨cell, hrow, ?_⟩
        rw [hc, ofName?_eq_some_iff.mp hname]
        exact List.mem_cons_self
      · exact .inl hrow
    · exact .inr ⟨cell', hcell, List.mem_cons_of_mem _ hmem⟩

theorem cellValue_eq_some_iff {cell : List Char} {value : String} :
    cellValue cell = some value ↔ cell = value.toList ∧ value ≠ "" := by
  rw [cellValue]
  constructor
  · intro h
    split_ifs at h with hempty
    obtain rfl := Option.some.inj h
    refine ⟨String.toList_ofList.symm, fun hvalue => hempty ?_⟩
    simpa using congrArg String.toList hvalue
  · rintro ⟨rfl, hne⟩
    simp [hne]

/-- **Under a header that is a text**, the values of a row stand under the names of their columns. -/
theorem standsUnder_of_decodeRow (hheader : ∀ f ∈ header.fields, IsText f)
    (h : decodeRow (some (cellsOf header)) r = .ok row) {c : Column} {value : String}
    (hvalue : row.cell c = some value) : StandsUnder header r c.name value := by
  by_cases hr : ∀ f ∈ r.fields, IsText f
  · simp only [decodeRow, decodeFields_of_isText 0 hr] at h
    obtain hnone | ⟨cell, hcell, hmem⟩ := mem_zip_of_decodeNamed h hvalue
    · cases c <;> cases hnone
    · obtain ⟨rfl, hne⟩ := cellValue_eq_some_iff.mp hcell
      refine ⟨hne, ?_⟩
      rw [List.zip_map_right, List.mem_map] at hmem
      obtain ⟨⟨name, cell⟩, hmem, heq⟩ := hmem
      obtain ⟨rfl, hcell⟩ := Prod.mk.inj heq
      obtain rfl := String.toList_injective hcell
      rw [← map_cellBytes_cellsOf hheader, ← map_cellBytes_cellsOf hr, List.zip_map, List.mem_map]
      exact ⟨_, hmem, rfl⟩
  · obtain ⟨fault, hfault⟩ := exists_fault_of_not_isText 0 (by simpa using hr)
    simp [decodeRow, hfault] at h

/-! ## Values in places -/

/-- The value in a place of a record, if there is a cell and it is not empty. -/
def valueAt (r : Record) (place : Nat) : Option String := (cellsOf r)[place]?.filter (· ≠ "")

/-- The row of the first three values of a record. -/
def rowByPlace (r : Record) : SmellRow := ⟨valueAt r 0, valueAt r 1, valueAt r 2⟩

theorem bind_cellValue (cells : List String) (place : Nat) :
    (cells.map String.toList)[place]?.bind cellValue = cells[place]?.filter (· ≠ "") := by
  rw [List.getElem?_map]
  cases cells[place]? with
  | none => rfl
  | some cell => exact cellValue_toList cell

theorem decodeRow_by_place (h : ∀ f ∈ r.fields, IsText f) : decodeRow none r = .ok (rowByPlace r) := by
  simp only [decodeRow, decodeFields_of_isText 0 h, decodePlaced, bind_cellValue]
  rfl

theorem inputRow_eq_ok_iff {names : Option (List String)} :
    inputRow names r = .ok row ↔ decodeRow names r = .ok row := by
  rw [inputRow]
  cases decodeRow names r <;> simp

/-- **Where the values of a table come from**: from under the names, or from their places. -/
theorem readRows_by_header {bytes : Bytes} {header : Record} {records : List Record} (source : Path)
    (htable : recordsOf bytes = header :: records) :
    (∃ entries, readRows { bytes } source = .ok entries ∧
      ((∀ f ∈ header.fields, IsText f) →
        List.Forall₂ (fun r entry => ∀ row, entry = .ok row →
          ∀ (c : Column) (value : String), row.cell c = some value →
            StandsUnder header r c.name value) records entries) ∧
      ((∃ f ∈ header.fields, ¬ IsText f) →
        List.Forall₂ (fun r entry =>
          (entry = .ok (rowByPlace r) ↔ ∀ f ∈ r.fields, IsText f) ∧
          ((∃ e : Failure, entry = .error e ∧ e.kind = .malformedInput) ↔
            ∃ f ∈ r.fields, ¬ IsText f)) records entries)) ∧
    ∀ cause entries, readRows ⟨bytes, some cause⟩ source = .ok entries → entries = [] := by
  refine ⟨⟨records.map (inputRow (headerNames? header)), by rw [readRows_whole, htable]; rfl,
    fun hheader => ?_, fun hheader => ?_⟩, fun cause entries hread => ?_⟩
  · rw [headerNames?_eq, if_pos hheader, List.forall₂_map_right_iff, List.forall₂_same]
    intro r _ row hrow c value hvalue
    exact standsUnder_of_decodeRow hheader (inputRow_eq_ok_iff.mp hrow) hvalue
  · rw [headerNames?_eq, if_neg (by simpa using hheader), List.forall₂_map_right_iff,
      List.forall₂_same]
    intro r _
    by_cases hr : ∀ f ∈ r.fields, IsText f
    · rw [inputRow_eq_ok_iff.mpr (decodeRow_by_place hr)]
      exact ⟨iff_of_true rfl hr, iff_of_false (by simp) (by simpa using hr)⟩
    · obtain ⟨fault, hfault⟩ := exists_fault_of_not_isText 0 (by simpa using hr)
      have herror : inputRow none r = .error (undecodableRow r.mark fault) := by
        simp only [inputRow, decodeRow, hfault]
      rw [herror]
      exact ⟨iff_of_false (by simp) hr, iff_of_true ⟨_, rfl, rfl⟩ (by simpa using hr)⟩
  · rw [readRows_broken] at hread
    split_ifs at hread
    exact (Except.ok.inj hread).symm

/-- A header that is no text, a record that is read by its places, and one that is no text. -/
theorem readRows_by_header_unread :
    let bytes := 0xFF :: encode ",File\no/c,/a.js,1,2\n,x,".toList ++ [0xFE]
    ∃ e : Failure, e.kind = .malformedInput ∧ readRows { bytes } ⟨"in.csv"⟩ =
      .ok [.ok ⟨some "o/c", some "/a.js", some "1"⟩, .error e] := by
  intro bytes
  have htable : recordsOf bytes =
      [⟨⟨0, 1, 0⟩, [[0xFF], cellBytes "File"]⟩,
        ⟨⟨1, 2, 7⟩, ["o/c", "/a.js", "1", "2"].map cellBytes⟩,
        ⟨⟨2, 3, 21⟩, [[], cellBytes "x", [0xFE]]⟩] := by decide +kernel
  obtain ⟨⟨entries, hread, -, hplaced⟩, -⟩ := readRows_by_header ⟨"in.csv"⟩ htable
  have hentries := hplaced ⟨[0xFF], .head _, by decide +kernel⟩
  obtain ⟨first, rest, ⟨hfirst, -⟩, hrest, rfl⟩ := List.forall₂_cons_left_iff.mp hentries
  obtain ⟨second, nothing, ⟨-, hsecond⟩, hnothing, rfl⟩ := List.forall₂_cons_left_iff.mp hrest
  obtain rfl := List.forall₂_nil_left_iff.mp hnothing
  obtain ⟨e, rfl, he⟩ := hsecond.mpr ⟨[0xFE], by simp, by decide +kernel⟩
  have hrow : rowByPlace ⟨⟨1, 2, 7⟩, ["o/c", "/a.js", "1", "2"].map cellBytes⟩ =
      ⟨some "o/c", some "/a.js", some "1"⟩ := by decide +kernel
  refine ⟨e, he, ?_⟩
  rw [hread, hfirst.mpr (by decide +kernel), hrow]

/-- So a line may be taken for the name of a repository. -/
theorem readRows_misplaced :
    let bytes := encode "Lines,File,Caf".toList ++ 0xE9 :: encode ",Repository\n1,/a.js,x,o/c\n".toList
    (∃ header ∈ (recordsOf bytes).head?, ∃ f ∈ header.fields, ¬ IsText f) ∧
      readRows { bytes } ⟨"in.csv"⟩ = .ok [.ok ⟨some "1", some "/a.js", some "x"⟩] := by
  intro bytes
  refine ⟨⟨⟨⟨0, 1, 0⟩, [cellBytes "Lines", cellBytes "File", encode "Caf".toList ++ [0xE9],
    cellBytes "Repository"]⟩, by decide +kernel, _, .tail _ (.tail _ (.head _)), by decide +kernel⟩, ?_⟩
  rw [readRows_whole]
  decide +kernel

end TestLocator.Batch
