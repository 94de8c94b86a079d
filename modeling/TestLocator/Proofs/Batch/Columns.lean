import Mathlib.Data.List.Basic
import TestLocator.Batch.Table
import TestLocator.Proofs.Text.Ascii

/-!
# Cells under the names of a header

What a record says hangs on the names above its cells, not on the places of these.

* `IsColumnName`, `NamesColumns` — the names of the columns that count, and headers with each of
  them;
* `valueUnder`, `rowUnder` — the row whose values stand under these names;
* `LacksUnknown` — a record that ends before a column that does not count;
* `SmellRow.fill`, `decodeNamed_eq`, **`decodeRow_eq`** — what decoding a record gives;
* `knownCells`, **`rowUnder_eq_of_perm`** — only the cells of the columns that count matter, and not
  their order.
-/

namespace TestLocator.Batch

open TestLocator.Csv TestLocator.Text

/-! ## Names of columns -/

/-- A name is that of a column that counts. -/
def IsColumnName (name : String) : Prop := ∃ c : Column, c.name = name

theorem ofName?_eq_some_iff {name : String} {c : Column} :
    Column.ofName? name = some c ↔ c.name = name := by
  constructor
  · intro h
    exact beq_iff_eq.mp (List.find?_some (p := fun c : Column => c.name == name) h)
  · rintro rfl
    cases c <;> rfl

theorem ofName?_eq_none_iff {name : String} : Column.ofName? name = none ↔ ¬ IsColumnName name := by
  constructor
  · rintro h ⟨c, hc⟩
    rw [ofName?_eq_some_iff.mpr hc] at h
    cases h
  · intro h
    cases hname : Column.ofName? name with
    | none => rfl
    | some c => exact absurd ⟨c, ofName?_eq_some_iff.mp hname⟩ h

instance (name : String) : Decidable (IsColumnName name) :=
  decidable_of_iff (Column.ofName? name ≠ none) (ofName?_eq_none_iff.not_left)

theorem Column.name_injective : Function.Injective Column.name := by
  intro c c' h
  have hc := ofName?_eq_some_iff.mpr h
  rw [ofName?_eq_some_iff.mpr rfl] at hc
  exact (Option.some.inj hc).symm

/-- A header has the name of each column that counts, and has it once. -/
def NamesColumns (header : List String) : Prop := ∀ c : Column, header.count c.name = 1

theorem namesColumns_iff {header : List String} : NamesColumns header ↔
    header.count "Repository" = 1 ∧ header.count "File" = 1 ∧ header.count "Lines" = 1 :=
  ⟨fun h => ⟨h .repository, h .file, h .lines⟩, fun ⟨hrepository, hfile, hlines⟩ c => by
    cases c <;> assumption⟩

instance (header : List String) : Decidable (NamesColumns header) :=
  decidable_of_iff _ namesColumns_iff.symm

/-! ## Values under names -/

/-- The value under a name of a header, if there is a cell and it is not empty. -/
def valueUnder (header cells : List String) (name : String) : Option String :=
  ((header.zip cells).lookup name).filter (· ≠ "")

/-- The row whose values stand under the names of the columns. -/
def rowUnder (header cells : List String) : SmellRow where
  repository := valueUnder header cells "Repository"
  file := valueUnder header cells "File"
  lines := valueUnder header cells "Lines"

/-- A record lacks the cell of a column that does not count. -/
def LacksUnknown (header cells : List String) : Prop :=
  ∃ name ∈ header.drop cells.length, ¬ IsColumnName name

instance (header cells : List String) : Decidable (LacksUnknown header cells) :=
  inferInstanceAs (Decidable (∃ name ∈ header.drop cells.length, ¬ IsColumnName name))

theorem SmellRow.eq_of_cell {r r' : SmellRow} (h : ∀ c, r.cell c = r'.cell c) : r = r' := by
  obtain ⟨repository, file, lines⟩ := r
  obtain ⟨repository', file', lines'⟩ := r'
  obtain rfl : repository = repository' := h .repository
  obtain rfl : file = file' := h .file
  obtain rfl : lines = lines' := h .lines
  rfl

theorem cell_rowUnder (header cells : List String) (c : Column) :
    (rowUnder header cells).cell c = valueUnder header cells c.name := by
  cases c <;> rfl

theorem cell_setCell (r : SmellRow) (c c' : Column) (value : Option String) :
    (r.setCell c value).cell c' = if c' = c then value else r.cell c' := by
  cases c <;> cases c' <;> rfl

/-! ## Decoding -/

/-- A row into which the cells under the names of the columns have been put. -/
def SmellRow.fill (r : SmellRow) (names : List String) (cells : List (List Char)) : SmellRow :=
  let value (c : Column) := ((names.zip cells).lookup c.name).elim (r.cell c) cellValue
  ⟨value .repository, value .file, value .lines⟩

variable {row : SmellRow} {name : String} {names : List String} {cell : List Char}
  {cells : List (List Char)}

theorem cell_fill (c : Column) :
    (row.fill names cells).cell c =
      ((names.zip cells).lookup c.name).elim (row.cell c) cellValue := by
  cases c <;> rfl

theorem fill_of_nil (h : names.zip cells = []) : row.fill names cells = row :=
  SmellRow.eq_of_cell fun c => by rw [cell_fill, h]; rfl

theorem fill_unknown (h : ¬ IsColumnName name) :
    row.fill (name :: names) (cell :: cells) = row.fill names cells := by
  refine SmellRow.eq_of_cell fun c => ?_
  have hname : (c.name == name) = false := beq_eq_false_iff_ne.mpr fun hc => h ⟨c, hc⟩
  rw [cell_fill, cell_fill, List.zip_cons_cons, List.lookup_cons, hname]

theorem fill_known {c : Column} (h : c.name ∉ names) :
    row.fill (c.name :: names) (cell :: cells) =
      (row.setCell c (cellValue cell)).fill names cells := by
  refine SmellRow.eq_of_cell fun c' => ?_
  rw [cell_fill, cell_fill, cell_setCell, List.zip_cons_cons, List.lookup_cons]
  by_cases hc : c' = c
  · subst hc
    have hrest : (names.zip cells).lookup c'.name = none := by
      refine List.lookup_eq_none_iff.mpr fun p hp => bne_iff_ne.mpr fun hname => h ?_
      rw [hname]
      exact (List.of_mem_zip hp).1
    rw [beq_self_eq_true, hrest, if_pos rfl]
    rfl
  · have hname : (c'.name == c.name) = false :=
      beq_eq_false_iff_ne.mpr fun hname => hc (Column.name_injective hname)
    rw [hname, if_neg hc]

/-- No column is named twice by the names that have been seen and those to come. -/
structure NoneTwice (seen : List Column) (names : List String) : Prop where
  count_le (c : Column) : names.count c.name ≤ 1
  notMem (c : Column) : c ∈ seen → c.name ∉ names

namespace NoneTwice

variable {seen : List Column}

theorem tail (h : NoneTwice seen (name :: names)) : NoneTwice seen names :=
  ⟨fun c => Nat.le_trans List.count_le_count_cons (h.count_le c),
    fun c hc hmem => h.notMem c hc (List.mem_cons_of_mem name hmem)⟩

theorem notMem_tail {c : Column} (h : NoneTwice seen (c.name :: names)) : c.name ∉ names := by
  have hcount := h.count_le c
  rw [List.count_cons_self] at hcount
  exact List.count_eq_zero.mp (by omega)

theorem cons_seen {c : Column} (h : NoneTwice seen (c.name :: names)) :
    NoneTwice (c :: seen) names := by
  refine ⟨h.tail.count_le, fun c' hc' => ?_⟩
  rcases List.mem_cons.mp hc' with rfl | hc'
  · exact h.notMem_tail
  · exact h.tail.notMem c' hc'

end NoneTwice

theorem decodeNamed_eq {seen : List Column} (h : NoneTwice seen names) :
    decodeNamed row seen names cells =
      if ∃ name ∈ names.drop cells.length, ¬ IsColumnName name then .error .endOfRow
      else .ok (row.fill names cells) := by
  fun_induction decodeNamed row seen names cells with
  | case1 row seen cells => rw [if_neg (by simp), fill_of_nil List.zip_nil_left]
  | case2 row seen name names hname =>
    rw [if_pos ⟨name, List.mem_cons_self, ofName?_eq_none_iff.mp hname⟩]
  | case3 row seen name names hname cell cells ih =>
    rw [ih h.tail, List.length_cons, List.drop_succ_cons,
      fill_unknown (ofName?_eq_none_iff.mp hname)]
  | case4 row seen name names cells c hname hseen =>
    obtain rfl := ofName?_eq_some_iff.mp hname
    exact absurd List.mem_cons_self (h.notMem c (by simpa using hseen))
  | case5 row seen name names c hname _ ih =>
    obtain rfl := ofName?_eq_some_iff.mp hname
    have hc : IsColumnName c.name := ⟨c, rfl⟩
    rw [ih h.cons_seen, fill_of_nil List.zip_nil_right, fill_of_nil List.zip_nil_right]
    simp [hc]
  | case6 row seen name names c hname _ cell cells ih =>
    obtain rfl := ofName?_eq_some_iff.mp hname
    rw [ih h.cons_seen, List.length_cons, List.drop_succ_cons, fill_known h.notMem_tail]

/-! ## Records -/

/-- The bytes of a cell. -/
def cellBytes (cell : String) : Bytes := encode cell.toList

theorem decodeFields_cellBytes (n : Nat) (cells : List String) :
    decodeFields n (cells.map cellBytes) = .ok (cells.map String.toList) := by
  induction cells generalizing n with
  | nil => rfl
  | cons cell cells ih =>
    rw [List.map_cons, decodeFields, cellBytes, decode?_encode, ih (n + 1)]
    rfl

theorem headerNames?_of_fields {header : List String} {r : Record}
    (hr : r.fields = header.map cellBytes) : headerNames? r = some header := by
  rw [headerNames?, hr, decodeFields_cellBytes]
  simp

theorem cellValue_toList (cell : String) :
    cellValue cell.toList = (some cell).filter (· ≠ "") := by
  by_cases hcell : cell = "" <;> simp [cellValue, hcell, Option.filter]

theorem lookup_zip_toList (header cells : List String) (name : String) :
    (header.zip (cells.map String.toList)).lookup name =
      ((header.zip cells).lookup name).map String.toList := by
  induction header generalizing cells with
  | nil => rfl
  | cons first header ih =>
    cases cells with
    | nil => rfl
    | cons cell cells =>
      rw [List.map_cons, List.zip_cons_cons, List.zip_cons_cons, List.lookup_cons, List.lookup_cons,
        ih]
      cases name == first <;> rfl

theorem fill_toList (header cells : List String) :
    ({} : SmellRow).fill header (cells.map String.toList) = rowUnder header cells := by
  refine SmellRow.eq_of_cell fun c => ?_
  have hnone : ({} : SmellRow).cell c = none := by cases c <;> rfl
  rw [cell_fill, cell_rowUnder, valueUnder, lookup_zip_toList, hnone]
  cases (header.zip cells).lookup c.name with
  | none => rfl
  | some cell => exact cellValue_toList cell

theorem NamesColumns.noneTwice {header : List String} (h : NamesColumns header) :
    NoneTwice [] header :=
  ⟨fun c => Nat.le_of_eq (h c), fun _ hc => absurd hc List.not_mem_nil⟩

/-- **A record is the row of the values under the names of the columns**, if it lacks no cell of
another column. -/
theorem decodeRow_eq {header cells : List String} {r : Record} (hheader : NamesColumns header)
    (hr : r.fields = cells.map cellBytes) :
    (¬ LacksUnknown header cells → decodeRow (some header) r = .ok (rowUnder header cells)) ∧
      (LacksUnknown header cells → decodeRow (some header) r = .error .endOfRow) := by
  have hdecode : decodeRow (some header) r =
      decodeNamed {} [] header (cells.map String.toList) := by
    simp only [decodeRow, hr, decodeFields_cellBytes]
  rw [hdecode, decodeNamed_eq hheader.noneTwice, List.length_map, fill_toList]
  exact ⟨fun h => if_neg h, fun h => if_pos h⟩

/-! ## The order of columns -/

/-- The cells of the columns that count, with their names. -/
def knownCells (header cells : List String) : List (String × String) :=
  (header.zip cells).filter fun p => IsColumnName p.1

theorem lookup_zip_eq_some_iff {header cells : List String} {name cell : String}
    (h : header.count name ≤ 1) :
    (header.zip cells).lookup name = some cell ↔ (name, cell) ∈ header.zip cells := by
  induction header generalizing cells with
  | nil => simp
  | cons first header ih =>
    cases cells with
    | nil => simp
    | cons c cells =>
      rw [List.zip_cons_cons, List.lookup_cons, List.mem_cons, Prod.mk.injEq]
      by_cases hname : name = first
      · subst hname
        rw [List.count_cons_self] at h
        have hrest : name ∉ header := List.count_eq_zero.mp (by omega)
        have hzip : (name, cell) ∉ header.zip cells := fun hmem => hrest (List.of_mem_zip hmem).1
        simp [hzip, eq_comm]
      · have hne : (name == first) = false := beq_eq_false_iff_ne.mpr hname
        rw [hne, ih (Nat.le_trans List.count_le_count_cons h)]
        simp [hname]

/-- **Only the cells of the columns that count matter**, and not their order. -/
theorem rowUnder_eq_of_perm {header header' cells cells' : List String}
    (hheader : NamesColumns header) (hheader' : NamesColumns header')
    (h : (knownCells header cells).Perm (knownCells header' cells')) :
    rowUnder header' cells' = rowUnder header cells := by
  refine SmellRow.eq_of_cell fun c => ?_
  have hlookup : (header'.zip cells').lookup c.name = (header.zip cells).lookup c.name := by
    refine Option.ext fun cell => ?_
    rw [lookup_zip_eq_some_iff (Nat.le_of_eq (hheader' c)),
      lookup_zip_eq_some_iff (Nat.le_of_eq (hheader c))]
    have hmem := h.mem_iff (a := (c.name, cell))
    have hc : IsColumnName c.name := ⟨c, rfl⟩
    simpa [knownCells, hc] using hmem.symm
  rw [cell_rowUnder, cell_rowUnder, valueUnder, hlookup, valueUnder]

end TestLocator.Batch
