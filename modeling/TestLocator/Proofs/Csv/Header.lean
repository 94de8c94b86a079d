import TestLocator.Proofs.Csv.CursorSteps

/-!
# When the header is known

A part of a table may be enough to tell its header: when the record has been ended.

* `atFront_append_of_ended`, `atFront_append_letter` — more bytes do not change how a table starts;
* `SettlesHeader`, **`settlesHeader_iff`** — the header is known exactly if a record has been ended.
-/

namespace TestLocator.Csv

open TestLocator.Text

variable {bs : Bytes}

/-! ## The front of a table -/

theorem atFront_of_ne (h : ∀ rest, bs ≠ 0xEF :: 0xBB :: 0xBF :: rest) :
    Reader.atFront bs = ({}, bs) := by
  unfold Reader.atFront
  split
  · exact absurd rfl (h _)
  · rfl

theorem atFront_append (more : Bytes)
    (h : ∀ rest, bs ++ more = 0xEF :: 0xBB :: 0xBF :: rest → 3 ≤ bs.length) :
    Reader.atFront (bs ++ more) = ((Reader.atFront bs).1, (Reader.atFront bs).2 ++ more) := by
  by_cases hmark : ∃ rest, bs ++ more = 0xEF :: 0xBB :: 0xBF :: rest
  · obtain ⟨rest, hrest⟩ := hmark
    obtain ⟨a, b, c, tail, rfl⟩ : ∃ a b c tail, bs = a :: b :: c :: tail := by
      match bs, h rest hrest with
      | a :: b :: c :: tail, _ => exact ⟨a, b, c, tail, rfl⟩
    simp only [List.cons_append, List.cons.injEq] at hrest
    obtain ⟨rfl, rfl, rfl, -⟩ := hrest
    rfl
  · have hbs : ∀ rest, bs ≠ 0xEF :: 0xBB :: 0xBF :: rest := fun rest e =>
      hmark ⟨rest ++ more, by rw [e]; rfl⟩
    rw [atFront_of_ne hbs, atFront_of_ne fun rest e => hmark ⟨rest, e⟩]

theorem atFront_append_of_ended
    (h : endedRecords (Reader.atFront bs).1 (Reader.atFront bs).2 ≠ []) (more : Bytes) :
    Reader.atFront (bs ++ more) = ((Reader.atFront bs).1, (Reader.atFront bs).2 ++ more) := by
  refine atFront_append more fun rest hrest => ?_
  match bs with
  | [] => exact absurd rfl h
  | [a] =>
    obtain ⟨rfl, -⟩ := List.cons.inj hrest
    exact absurd rfl h
  | [a, b] =>
    obtain ⟨rfl, htail⟩ := List.cons.inj hrest
    obtain ⟨rfl, -⟩ := List.cons.inj htail
    exact absurd rfl h
  | _ :: _ :: _ :: _ => exact Nat.le_add_left _ _

/-- A letter completes no byte-order mark. -/
theorem atFront_append_letter (bs : Bytes) :
    Reader.atFront (bs ++ [97]) = ((Reader.atFront bs).1, (Reader.atFront bs).2 ++ [97]) := by
  refine atFront_append [97] fun rest hrest => ?_
  match bs with
  | [] => cases hrest
  | [a] => cases hrest
  | [a, b] => simp at hrest
  | _ :: _ :: _ :: _ => exact Nat.le_add_left _ _

/-! ## The header -/

/-- Some bytes are enough to tell the header of a table: whatever follows them, it is the same. -/
def SettlesHeader (bs : Bytes) : Prop :=
  ∃ header, ∀ more, (recordsOf (bs ++ more)).head? = some header

theorem Mode.next_letter {m : Mode} (h : m.isOpen) :
    ∃ m', m'.isOpen ∧ m.next 97 = (m', .keep) := by
  cases m with
  | startRecord => cases h
  | afterReturn => cases h
  | startField => exact ⟨.inField, rfl, rfl⟩
  | inField => exact ⟨.inField, rfl, rfl⟩
  | inQuotes => exact ⟨.inQuotes, rfl, rfl⟩
  | afterQuote => exact ⟨.inField, rfl, rfl⟩

theorem step_letter {r : Reader} (h : r.mode.isOpen) :
    (r.step 97).mode.isOpen ∧ (r.step 97).done = r.done ∧
      (r.step 97).record.fields ≠ r.record.fields := by
  obtain ⟨m, hm, hnext⟩ := Mode.next_letter h
  rw [Reader.step, hnext]
  refine ⟨hm, rfl, fun e => ?_⟩
  -- the last field has become longer
  have hlast : (97 :: r.field).reverse = r.field.reverse :=
    (List.cons.inj (List.reverse_injective e)).1
  have hlength := congrArg List.length hlast
  simp at hlength

theorem head?_allRecords_append {r : Reader} (hr : r.done = []) (h : endedRecords r bs ≠ [])
    (more : Bytes) : (allRecords r (bs ++ more)).head? = (endedRecords r bs).head? := by
  obtain ⟨record, r', front, rest, -, -, rfl, hrun⟩ | ⟨-, hdone⟩ := Reader.pull_cases hr bs
  · rw [List.append_assoc, allRecords_append hrun, endedRecords_append hrun]
    rfl
  · exact absurd (by rw [endedRecords, hdone]; rfl) h

/-- **The header is known exactly if it has been ended.** -/
theorem settlesHeader_iff (bs : Bytes) :
    SettlesHeader bs ↔ endedRecords (Reader.atFront bs).1 (Reader.atFront bs).2 ≠ [] := by
  constructor
  · rintro ⟨header, hheader⟩ hnone
    have hdone : ((Reader.atFront bs).1.run (Reader.atFront bs).2).done = [] := by
      simpa [endedRecords] using hnone
    have hbs := hheader []
    have hletter := hheader [97]
    rw [List.append_nil, recordsOf_eq, allRecords_of_ended hdone] at hbs
    rw [recordsOf_eq, atFront_append_letter] at hletter
    generalize (Reader.atFront bs).1 = r at *
    generalize (Reader.atFront bs).2 = rest at *
    split_ifs at hbs with hopen
    · obtain ⟨hopen', hdone', hne⟩ := step_letter hopen
      have hrun : r.run (rest ++ [97]) = (r.run rest).step 97 := Reader.run_append r rest [97]
      rw [allRecords_of_ended (by rw [hrun, hdone', hdone]), hrun, if_pos hopen'] at hletter
      exact hne (congrArg Record.fields (Option.some.inj (hletter.trans hbs.symm)))
    · cases hbs
  · intro h
    obtain ⟨header, older, hended⟩ := List.exists_cons_of_ne_nil h
    refine ⟨header, fun more => ?_⟩
    rw [recordsOf_eq, atFront_append_of_ended h,
      head?_allRecords_append (atFront_done bs) h, hended, List.head?_cons]

end TestLocator.Csv
