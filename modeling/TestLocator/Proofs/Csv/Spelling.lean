import Mathlib.Data.List.Basic
import TestLocator.Csv.Writer

/-!
# Ways to write a table

A table is written in one way, but may have been written in others: with quotes that are not needed,
with any line end, with blank lines, and without the last line end.

* `SpellsField`, `SpellsRecord`, `lineEnds`, `SpellsTable` — a text is a field, a record, a table;
* `SpellsRecord.ne_nil` — what makes a record show;
* `spellsTable_flatMap_writeRecord` — what is written is a table.
-/

namespace TestLocator.Csv

/-- A text is a field: as it is, if it needs no quotes, or between quotes. -/
inductive SpellsField (field : List Char) : List Char → Prop
  | bare : needsQuotes field = false → SpellsField field field
  | quoted : SpellsField field ('"' :: doubleQuotes field ++ ['"'])

/-- A text is the fields of a record with commas between them. -/
inductive SpellsRecord : List (List Char) → List Char → Prop
  | last {field cs : List Char} : SpellsField field cs → SpellsRecord [field] cs
  | comma {field : List Char} {fields : List (List Char)} {cs ds : List Char} :
    SpellsField field cs → SpellsRecord fields ds → SpellsRecord (field :: fields) (cs ++ ',' :: ds)

/-- The ways to end a line. -/
def lineEnds : List (List Char) := [['\n'], ['\r'], ['\r', '\n']]

/-- A text is a table: a line for each record, and blank lines anywhere. A record must show, or its
line would be a blank one. -/
inductive SpellsTable : List (List (List Char)) → List Char → Prop
  | nil : SpellsTable [] []
  | blank {records : List (List (List Char))} {lineEnd ds : List Char} :
    lineEnd ∈ lineEnds → SpellsTable records ds → SpellsTable records (lineEnd ++ ds)
  | line {fields : List (List Char)} {records : List (List (List Char))}
      {cs lineEnd ds : List Char} :
    SpellsRecord fields cs → cs ≠ [] → lineEnd ∈ lineEnds → SpellsTable records ds →
    SpellsTable (fields :: records) (cs ++ (lineEnd ++ ds))
  /-- The end of the table may end its last line. -/
  | last {fields : List (List Char)} {cs : List Char} :
    SpellsRecord fields cs → cs ≠ [] → SpellsTable [fields] cs

/-- Only a single empty field may not show. -/
theorem SpellsRecord.ne_nil {fields : List (List Char)} {cs : List Char}
    (h : SpellsRecord fields cs) (hfields : fields ≠ [[]]) : cs ≠ [] := by
  cases h with
  | last hfield =>
    cases hfield with
    | bare _ => exact fun hcs => hfields (by rw [hcs])
    | quoted => exact List.cons_ne_nil _ _
  | comma _ _ => simp

/-! ## What is written -/

theorem spellsField_writeField (field : List Char) : SpellsField field (writeField field) := by
  unfold writeField
  split_ifs with hquotes
  · exact .quoted
  · exact .bare (by simpa using hquotes)

theorem spellsRecord_intercalate {fields : List (List Char)} (hne : fields ≠ []) :
    SpellsRecord fields ([','].intercalate (fields.map writeField)) := by
  induction fields with
  | nil => exact absurd rfl hne
  | cons field rest ih =>
    cases rest with
    | nil => simpa using .last (spellsField_writeField field)
    | cons next rest =>
      have hrest := ih (List.cons_ne_nil next rest)
      rw [List.map_cons] at hrest ⊢
      rw [List.map_cons, List.intercalate_cons_cons, List.append_assoc]
      exact .comma (spellsField_writeField field) hrest

/-- **What is written is a table.** -/
theorem spellsTable_flatMap_writeRecord {records : List (List (List Char))}
    (hne : ∀ fields ∈ records, fields ≠ [] ∧ fields ≠ [[]]) :
    SpellsTable records (records.flatMap writeRecord) := by
  induction records with
  | nil => exact .nil
  | cons fields records ih =>
    obtain ⟨⟨hfields, hblank⟩, hrecords⟩ := List.forall_mem_cons.mp hne
    have hrecord := spellsRecord_intercalate hfields
    rw [List.flatMap_cons, writeRecord, List.append_assoc]
    exact .line hrecord (hrecord.ne_nil hblank) List.mem_cons_self (ih hrecords)

end TestLocator.Csv
