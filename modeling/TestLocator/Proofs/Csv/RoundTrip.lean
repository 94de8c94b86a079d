import Mathlib.Data.List.Basic
import TestLocator.Proofs.Csv.CursorSteps
import TestLocator.Proofs.Csv.Spelling
import TestLocator.Proofs.Text.Ascii

/-!
# Reading what has been written

A reader over a table finds the fields that were written, whatever characters they hold and however
they have been written.

* `Reader.Holds` — what a reader holds, places left aside; a lemma for each effect of a byte;
* `Holds.run_bare`, `Holds.run_quoted`, `Holds.run_field` — a field without and with quotes;
* `Holds.run_fields`, `Holds.run_line`, `Holds.run_blank` — the fields of a record, lines;
* **`fields_recordsOf_spelling`** — the records of a table, in whatever way it is written;
* `fields_recordsOf_records` — the records of a table that has been written here.
-/

namespace TestLocator.Csv

open TestLocator.Text

/-! ## What a reader holds -/

/-- What a reader holds, the places in the table left aside: its mode, the field and the fields that
it has read, and the fields of the records, all last first. -/
structure Reader.Holds (r : Reader) (mode : Mode) (field : Bytes) (fields : List Bytes)
    (done : List (List Bytes)) : Prop where
  mode_eq : r.mode = mode
  field_eq : r.field = field
  fields_eq : r.fields = fields
  done_eq : r.done.map (·.fields) = done

namespace Reader.Holds

variable {r : Reader} {m m' : Mode} {f : Bytes} {fs : List Bytes} {ds : List (List Bytes)} {b : UInt8}

theorem skip (h : r.Holds m f fs ds) (hb : m.next b = (m', .skip)) :
    (r.step b).Holds m' f fs ds := by
  rw [step, h.mode_eq, hb]
  exact ⟨rfl, h.field_eq, h.fields_eq, h.done_eq⟩

theorem keep (h : r.Holds m f fs ds) (hb : m.next b = (m', .keep)) :
    (r.step b).Holds m' (b :: f) fs ds := by
  rw [step, h.mode_eq, hb]
  exact ⟨rfl, congrArg (b :: ·) h.field_eq, h.fields_eq, h.done_eq⟩

theorem endField (h : r.Holds m f fs ds) (hb : m.next b = (m', .endField)) :
    (r.step b).Holds m' [] (f.reverse :: fs) ds := by
  rw [step, h.mode_eq, hb]
  refine ⟨rfl, rfl, ?_, h.done_eq⟩
  rw [← h.field_eq, ← h.fields_eq]
  rfl

theorem endRecord (h : r.Holds m f fs ds) (hb : m.next b = (m', .endRecord)) :
    (r.step b).Holds m' [] [] ((f.reverse :: fs).reverse :: ds) := by
  rw [step, h.mode_eq, hb]
  refine ⟨rfl, rfl, rfl, ?_⟩
  rw [← h.field_eq, ← h.fields_eq, ← h.done_eq]
  rfl

end Reader.Holds

/-! ## Fields -/

/-- A byte that means nothing to a reader outside of quotes. -/
def IsPlain (b : UInt8) : Prop :=
  b ≠ comma ∧ b ≠ quoteMark ∧ b ≠ lineFeed ∧ b ≠ carriageReturn

/-- Nothing of a field has been read. -/
def Mode.IsFresh (m : Mode) : Prop := m = .startRecord ∨ m = .afterReturn ∨ m = .startField

theorem Mode.next_inField {b : UInt8} (hb : IsPlain b) : Mode.inField.next b = (.inField, .keep) := by
  obtain ⟨hcomma, -, hfeed, hreturn⟩ := hb
  simp [next, nextInField, hcomma, hfeed, hreturn]

theorem Mode.next_fresh {m : Mode} (hm : m.IsFresh) {b : UInt8} (hb : IsPlain b) :
    m.next b = (.inField, .keep) := by
  have hfield := Mode.next_inField hb
  obtain ⟨-, hquote, hfeed, hreturn⟩ := hb
  rw [next] at hfield
  rcases hm with rfl | rfl | rfl <;>
    simp [next, nextBeforeRecord, nextInStart, hquote, hfeed, hreturn, hfield]

theorem Mode.next_quote {m : Mode} (hm : m.IsFresh) : m.next quoteMark = (.inQuotes, .skip) := by
  rcases hm with rfl | rfl | rfl <;> rfl

theorem isPlain_of_needsQuotes {field : List Char} (h : needsQuotes field = false) :
    ∀ b ∈ encode field, IsPlain b := by
  have hnot : ∀ c ∈ ['"', ',', '\n', '\r'], c ∉ field := by
    intro c hc hmem
    have := List.any_eq_false.mp h c hmem
    simp at this hc
    tauto
  intro b hb
  refine ⟨?_, ?_, ?_, ?_⟩ <;> rintro rfl
  · exact notMem_encode (c := ',') (by decide) (hnot _ (by simp)) hb
  · exact notMem_encode (c := '"') (by decide) (hnot _ (by simp)) hb
  · exact notMem_encode (c := '\n') (by decide) (hnot _ (by simp)) hb
  · exact notMem_encode (c := '\r') (by decide) (hnot _ (by simp)) hb

namespace Reader.Holds

variable {r : Reader} {m m' : Mode} {f : Bytes} {fs : List Bytes} {ds : List (List Bytes)}

theorem run_plain (h : r.Holds .inField f fs ds) {bs : Bytes} (hbs : ∀ b ∈ bs, IsPlain b) :
    (r.run bs).Holds .inField (bs.reverse ++ f) fs ds := by
  induction bs generalizing r f with
  | nil => exact h
  | cons b bs ih =>
    have hstep := h.keep (Mode.next_inField (hbs b List.mem_cons_self))
    rw [List.reverse_cons, List.append_assoc]
    exact ih hstep fun b hb => hbs b (List.mem_cons_of_mem _ hb)

/-- **A field without quotes** is read as it is. -/
theorem run_bare (h : r.Holds m [] fs ds) (hm : m.IsFresh) {bs : Bytes}
    (hbs : ∀ b ∈ bs, IsPlain b) :
    (r.run bs).Holds (if bs = [] then m else .inField) bs.reverse fs ds := by
  cases bs with
  | nil => exact h
  | cons b bs =>
    have hstep := h.keep (Mode.next_fresh hm (hbs b List.mem_cons_self))
    rw [if_neg (List.cons_ne_nil b bs), List.reverse_cons]
    exact hstep.run_plain fun b hb => hbs b (List.mem_cons_of_mem _ hb)

theorem run_unquoted (h : r.Holds .inQuotes f fs ds) {bs : Bytes} (hbs : quoteMark ∉ bs) :
    (r.run bs).Holds .inQuotes (bs.reverse ++ f) fs ds := by
  induction bs generalizing r f with
  | nil => exact h
  | cons b bs ih =>
    have hb : b ≠ quoteMark := fun e => hbs (e ▸ List.mem_cons_self)
    have hnext : Mode.inQuotes.next b = (.inQuotes, .keep) := by simp [Mode.next, hb]
    rw [List.reverse_cons, List.append_assoc]
    exact ih (h.keep hnext) fun hmem => hbs (List.mem_cons_of_mem _ hmem)

theorem run_doubleQuotes (h : r.Holds .inQuotes f fs ds) (cs : List Char) :
    (r.run (encode (doubleQuotes cs))).Holds .inQuotes ((encode cs).reverse ++ f) fs ds := by
  induction cs generalizing r f with
  | nil => exact h
  | cons c cs ih =>
    by_cases hc : c = '"'
    · subst hc
      have hbytes : encode (doubleQuotes ('"' :: cs)) =
          quoteMark :: quoteMark :: encode (doubleQuotes cs) := rfl
      have hfirst : Mode.inQuotes.next quoteMark = (.afterQuote, .skip) := rfl
      have hsecond : Mode.afterQuote.next quoteMark = (.inQuotes, .keep) := rfl
      have hrun := ih ((h.skip hfirst).keep hsecond)
      rw [hbytes, encode_ascii (by decide), List.reverse_cons, List.append_assoc]
      exact hrun
    · have hdouble : doubleQuotes (c :: cs) = [c] ++ doubleQuotes cs := by simp [doubleQuotes, hc]
      have hquote : quoteMark ∉ encode [c] :=
        notMem_encode (c := '"') (by decide) (by simpa using Ne.symm hc)
      have hbytes : encode (c :: cs) = encode [c] ++ encode cs := encode_append [c] cs
      rw [hdouble, encode_append, run_append, hbytes, List.reverse_append, List.append_assoc]
      exact ih (h.run_unquoted hquote)

/-- **A field in quotes** is read without them. -/
theorem run_quoted (h : r.Holds m [] fs ds) (hm : m.IsFresh) (cs : List Char) :
    (r.run (encode ('"' :: doubleQuotes cs ++ ['"']))).Holds .afterQuote (encode cs).reverse
      fs ds := by
  have hopen := (h.skip (Mode.next_quote hm)).run_doubleQuotes cs
  rw [List.append_nil] at hopen
  rw [List.cons_append, encode_ascii (by decide), encode_append]
  change ((r.step quoteMark).run (encode (doubleQuotes cs) ++ [quoteMark])).Holds _ _ _ _
  rw [run_append]
  exact hopen.skip rfl

/-- **A field is read back.** -/
theorem run_field (h : r.Holds m [] fs ds) (hm : m.IsFresh) {field cs : List Char}
    (hcs : SpellsField field cs) :
    ∃ m', (r.run (encode cs)).Holds m' (encode field).reverse fs ds ∧ m' ≠ .inQuotes ∧
      (m.isOpen ∨ cs ≠ [] → m'.isOpen) := by
  cases hcs with
  | quoted => exact ⟨.afterQuote, h.run_quoted hm field, by decide, fun _ => rfl⟩
  | bare hquotes =>
    have hplain := isPlain_of_needsQuotes hquotes
    refine ⟨_, h.run_bare hm hplain, ?_, ?_⟩
    · rcases hm with rfl | rfl | rfl <;> split_ifs <;> decide
    · split_ifs with hempty
      · obtain rfl : field = [] := encode_injective hempty
        simp
      · exact fun _ => rfl

end Reader.Holds

/-! ## Records -/

theorem Mode.next_comma {m : Mode} (hm : m ≠ .inQuotes) :
    m.next comma = (.startField, .endField) := by
  cases m with
  | inQuotes => exact absurd rfl hm
  | startRecord | afterReturn | startField | inField | afterQuote => rfl

theorem Mode.next_lineEnd {m : Mode} (hm : m ≠ .inQuotes) (hopen : m.isOpen) {b : UInt8}
    (hb : b = lineFeed ∨ b = carriageReturn) :
    m.next b = (if b = lineFeed then .startRecord else .afterReturn, .endRecord) := by
  cases m with
  | inQuotes => exact absurd rfl hm
  | startRecord | afterReturn => cases hopen
  | startField | inField | afterQuote => rcases hb with rfl | rfl <;> rfl

theorem Mode.isFresh_of_not_isOpen {m : Mode} (h : m.isOpen = false) : m.IsFresh := by
  cases m with
  | startRecord => exact .inl rfl
  | afterReturn => exact .inr (.inl rfl)
  | startField | inField | inQuotes | afterQuote => cases h

theorem Mode.next_of_not_isOpen {m : Mode} (h : m.isOpen = false) {b : UInt8}
    (hb : b = lineFeed ∨ b = carriageReturn) : m.next b = (.startRecord, .skip) := by
  cases m with
  | startRecord | afterReturn => rcases hb with rfl | rfl <;> rfl
  | startField | inField | inQuotes | afterQuote => cases h

namespace Reader.Holds

variable {r : Reader} {m : Mode} {f : Bytes} {fs : List Bytes} {ds : List (List Bytes)}

theorem run_fields (h : r.Holds m [] fs ds) (hm : m.IsFresh) {fields : List (List Char)}
    {cs : List Char} (hcs : SpellsRecord fields cs) (hshows : m.isOpen ∨ cs ≠ []) :
    ∃ m' f' fs', (r.run (encode cs)).Holds m' f' fs' ds ∧ m' ≠ .inQuotes ∧ m'.isOpen ∧
      (f'.reverse :: fs').reverse = fs.reverse ++ fields.map encode := by
  induction hcs generalizing r m fs with
  | @last field cs hfield =>
    obtain ⟨m₁, hrun, hquotes, hopen⟩ := h.run_field hm hfield
    exact ⟨m₁, (encode field).reverse, fs, hrun, hquotes, hopen hshows, by simp⟩
  | @comma field fields cs ds' hfield _ ih =>
    obtain ⟨m₁, hrun, hquotes, -⟩ := h.run_field hm hfield
    have hcomma := hrun.endField (Mode.next_comma hquotes)
    obtain ⟨m', f', fs', hrest, hquotes', hopen', heq⟩ := ih hcomma (.inr (.inr rfl)) (.inl rfl)
    refine ⟨m', f', fs', ?_, hquotes', hopen', by rw [heq]; simp⟩
    rw [encode_append, run_append, encode_ascii (by decide)]
    exact hrest

theorem run_lineEnd (h : r.Holds m f fs ds) (hm : m ≠ .inQuotes) (hopen : m.isOpen)
    {lineEnd : List Char} (hend : lineEnd ∈ lineEnds) :
    ∃ m', m'.isOpen = false ∧
      (r.run (encode lineEnd)).Holds m' [] [] ((f.reverse :: fs).reverse :: ds) := by
  simp only [lineEnds, List.mem_cons, List.not_mem_nil, or_false] at hend
  rcases hend with rfl | rfl | rfl
  · exact ⟨.startRecord, rfl, h.endRecord (Mode.next_lineEnd hm hopen (.inl rfl))⟩
  · exact ⟨.afterReturn, rfl, h.endRecord (Mode.next_lineEnd hm hopen (.inr rfl))⟩
  · -- the line feed after a carriage return ends no other record
    exact ⟨.startRecord, rfl, (h.endRecord (Mode.next_lineEnd hm hopen (.inr rfl))).skip rfl⟩

/-- A blank line is no record. -/
theorem run_blank (h : r.Holds m [] [] ds) (hm : m.isOpen = false) {lineEnd : List Char}
    (hend : lineEnd ∈ lineEnds) : (r.run (encode lineEnd)).Holds .startRecord [] [] ds := by
  simp only [lineEnds, List.mem_cons, List.not_mem_nil, or_false] at hend
  rcases hend with rfl | rfl | rfl
  · exact h.skip (Mode.next_of_not_isOpen hm (.inl rfl))
  · exact h.skip (Mode.next_of_not_isOpen hm (.inr rfl))
  · exact (h.skip (Mode.next_of_not_isOpen hm (.inr rfl))).skip rfl

/-- **The line of a record is read back.** -/
theorem run_line (h : r.Holds m [] [] ds) (hm : m.isOpen = false) {fields : List (List Char)}
    {cs lineEnd : List Char} (hcs : SpellsRecord fields cs) (hshows : cs ≠ [])
    (hend : lineEnd ∈ lineEnds) :
    ∃ m', m'.isOpen = false ∧
      (r.run (encode (cs ++ lineEnd))).Holds m' [] [] (fields.map encode :: ds) := by
  obtain ⟨m₁, f, fs, hrun, hquotes, hopen, heq⟩ :=
    h.run_fields (Mode.isFresh_of_not_isOpen hm) hcs (.inr hshows)
  obtain ⟨m', hm', hline⟩ := hrun.run_lineEnd hquotes hopen hend
  rw [heq] at hline
  exact ⟨m', hm', by rw [encode_append, run_append]; exact hline⟩

end Reader.Holds

/-! ## Tables -/

theorem allRecords_run (r : Reader) (front rest : Bytes) :
    allRecords r (front ++ rest) = allRecords (r.run front) rest := by
  rw [allRecords, Reader.run_append, allRecords]

theorem Reader.Holds.fields_allRecords {r : Reader} {m : Mode} {ds : List (List Bytes)}
    (h : r.Holds m [] [] ds) (hm : m.isOpen = false) {records : List (List (List Char))}
    {cs : List Char} (hcs : SpellsTable records cs) :
    (allRecords r (encode cs)).map (·.fields) = ds.reverse ++ records.map (List.map encode) := by
  induction hcs generalizing r m ds with
  | nil =>
    have hopen : (r.run (encode [])).mode.isOpen = false := by rw [← hm, ← h.mode_eq]; rfl
    rw [allRecords, hopen, if_neg Bool.false_ne_true, List.map_reverse, List.map_nil,
      List.append_nil, ← h.done_eq]
    rfl
  | blank hend _ ih =>
    rw [encode_append, allRecords_run]
    exact ih (h.run_blank hm hend) rfl
  | @line fields records cs lineEnd ds' hrecord hshows hend _ ih =>
    obtain ⟨m', hm', hline⟩ := h.run_line hm hrecord hshows hend
    rw [← List.append_assoc, encode_append, allRecords_run, ih hline hm']
    simp
  | @last fields cs hrecord hshows =>
    -- the record is ended by the end of the table
    obtain ⟨m', f, fs, hrun, -, hopen, heq⟩ :=
      h.run_fields (Mode.isFresh_of_not_isOpen hm) hrecord (.inr hshows)
    rw [← hrun.mode_eq] at hopen
    rw [allRecords, if_pos hopen, List.map_reverse, Reader.finish, List.map_cons, hrun.done_eq,
      Reader.record, hrun.field_eq, hrun.fields_eq, heq]
    simp

/-- **A table is read back**, in whatever way it is written. -/
theorem fields_recordsOf_spelling {records : List (List (List Char))} {cs : List Char}
    (hcs : SpellsTable records cs) (hfront : Reader.atFront (encode cs) = ({}, encode cs)) :
    (recordsOf (encode cs)).map (·.fields) = records.map (List.map encode) := by
  have hstart : ({} : Reader).Holds .startRecord [] [] [] := ⟨rfl, rfl, rfl, rfl⟩
  rw [recordsOf_eq, hfront]
  exact hstart.fields_allRecords rfl hcs

theorem fields_recordsOf_records {records : List (List (List Char))}
    (hne : ∀ fields ∈ records, fields ≠ [] ∧ fields ≠ [[]])
    (hfront : Reader.atFront (encode (records.flatMap writeRecord)) =
      ({}, encode (records.flatMap writeRecord))) :
    (recordsOf (encode (records.flatMap writeRecord))).map (·.fields) =
      records.map (List.map encode) :=
  fields_recordsOf_spelling (spellsTable_flatMap_writeRecord hne) hfront

end TestLocator.Csv
