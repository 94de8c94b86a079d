import Mathlib.Data.List.Basic
import TestLocator.Csv.Cursor

/-!
# What a cursor hands out

A cursor hands out the records of its table one by one: all of them, or, where reading fails, those
that have been ended before the failure.

* `Reader.run_append`, `Reader.run_onto` — records that are done stay and change nothing;
* `Reader.pull_cases` — reading on to the end of a record is reading the bytes up to there;
* `endedRecords`, `allRecords`, `Cursor.left`, `Cursor.fault` — what is still to be handed out;
* **`Cursor.next_cases`** — all that a step of a cursor can do.
-/

namespace TestLocator.Csv

open TestLocator.Text

namespace Reader

/-! ## Runs -/

/-- The reader with older records behind those that it has read. -/
def onto (r : Reader) (older : List Record) : Reader := { r with done := r.done ++ older }

variable {r : Reader} {older : List Record}

theorem run_append (r : Reader) (bs cs : Bytes) : r.run (bs ++ cs) = (r.run bs).run cs :=
  List.foldl_append

theorem step_onto (r : Reader) (older : List Record) (b : UInt8) :
    (r.onto older).step b = (r.step b).onto older := by
  simp only [step, apply, onto]
  cases (r.mode.next b).2 <;> simp [finish, record]

/-- Older records change nothing in a run. -/
theorem run_onto (r : Reader) (older : List Record) (bs : Bytes) :
    (r.onto older).run bs = (r.run bs).onto older := by
  induction bs generalizing r with
  | nil => rfl
  | cons b bs ih =>
    change ((r.onto older).step b).run bs = ((r.step b).run bs).onto older
    rw [step_onto, ih]

theorem step_done (h : r.done = []) (b : UInt8) :
    (r.step b).done = [] ∨ ∃ record, (r.step b).done = [record] := by
  simp only [step, apply]
  cases (r.mode.next b).2 <;> simp [finish, h]

/-- **Reading on to the end of a record.** -/
theorem pull_cases (h : r.done = []) (bs : Bytes) :
    (∃ record r' front rest, r.pull bs = (some record, r', rest) ∧ r'.done = [] ∧
      bs = front ++ rest ∧ r.run front = r'.onto [record]) ∨
    (r.pull bs = (none, r.run bs, []) ∧ (r.run bs).done = []) := by
  induction bs generalizing r with
  | nil => exact .inr ⟨rfl, h⟩
  | cons b bs ih =>
    rcases step_done h b with hnone | ⟨record, hone⟩
    · have hpull : r.pull (b :: bs) = (r.step b).pull bs := by simp [pull, hnone]
      rw [hpull]
      rcases ih hnone with ⟨record, r', front, rest, hr, hdone, hbs, hrun⟩ | hr
      · exact .inl ⟨record, r', b :: front, rest, hr, hdone, by rw [hbs, List.cons_append], hrun⟩
      · exact .inr hr
    · refine .inl ⟨record, { r.step b with done := [] }, [b], bs, by simp [pull, hone], rfl, rfl, ?_⟩
      change r.step b = _
      simp [onto, ← hone]

end Reader

/-! ## Whole tables -/

/-- The records that have been ended in some bytes. -/
def endedRecords (r : Reader) (bs : Bytes) : List Record := (r.run bs).done.reverse

/-- The records in some bytes where the table ends after them. -/
def allRecords (r : Reader) (bs : Bytes) : List Record :=
  (if (r.run bs).mode.isOpen then (r.run bs).finish else r.run bs).done.reverse

theorem recordsOf_eq (bs : Bytes) :
    recordsOf bs = allRecords (Reader.atFront bs).1 (Reader.atFront bs).2 := rfl

theorem atFront_done (bs : Bytes) : (Reader.atFront bs).1.done = [] := by
  unfold Reader.atFront
  split <;> rfl

variable {r r' : Reader} {record : Record} {front rest : Bytes}

theorem endedRecords_append (h : r.run front = r'.onto [record]) :
    endedRecords r (front ++ rest) = record :: endedRecords r' rest := by
  rw [endedRecords, Reader.run_append, h, Reader.run_onto]
  simp [Reader.onto, endedRecords]

theorem allRecords_append (h : r.run front = r'.onto [record]) :
    allRecords r (front ++ rest) = record :: allRecords r' rest := by
  rw [allRecords, Reader.run_append, h, Reader.run_onto]
  by_cases hopen : (r'.run rest).mode.isOpen <;>
    simp [Reader.onto, Reader.finish, Reader.record, allRecords, hopen]

theorem allRecords_of_ended {bs : Bytes} (h : (r.run bs).done = []) :
    allRecords r bs = if (r.run bs).mode.isOpen then [(r.run bs).record] else [] := by
  rw [allRecords]
  split_ifs <;> simp [Reader.finish, h]

namespace Cursor

variable {ε : Type}

/-- A cursor between two records. -/
def Ready (c : Cursor ε) : Prop := c.reader.done = []

/-- The records that a cursor is still to hand out. -/
def left (c : Cursor ε) : List Record :=
  if c.ended then []
  else
    match c.failure with
    | some _ => endedRecords c.reader c.rest
    | none => allRecords c.reader c.rest

/-- The failure that a cursor is still to tell. -/
def fault (c : Cursor ε) : Option ε := if c.ended then none else c.failure

theorem ready_ofBytes (bs : Bytes) (failure : Option ε) : (ofBytes bs failure).Ready :=
  atFront_done bs

/-- **A step of a cursor** hands out the first record that is left, tells the failure or finds the
end. -/
theorem next_cases {c : Cursor ε} (hc : c.Ready) : ∃ c', c'.Ready ∧
    ((∃ record, c.next = (.ok (some record), c') ∧ c.left = record :: c'.left ∧
      c'.fault = c.fault) ∨
    (c.left = [] ∧ c'.left = [] ∧ c'.fault = none ∧
      ((∃ e, c.next = (.error e, c') ∧ c.fault = some e) ∨
      (c.next = (.ok none, c') ∧ c.fault = none)))) := by
  by_cases hended : c.ended
  · exact ⟨c, hc, .inr ⟨by simp [left, hended], by simp [left, hended], by simp [fault, hended],
      .inr ⟨by simp [next, hended], by simp [fault, hended]⟩⟩⟩
  rcases Reader.pull_cases hc c.rest with
    ⟨record, r', front, rest, hpull, hdone, hrest, hrun⟩ | ⟨hpull, hdone⟩
  · refine ⟨{ c with reader := r', rest }, hdone, .inl ⟨record, by simp [next, hended, hpull], ?_,
      rfl⟩⟩
    cases hfailure : c.failure with
    | none => simp [left, hended, hfailure, hrest, allRecords_append hrun]
    | some e => simp [left, hended, hfailure, hrest, endedRecords_append hrun]
  · refine ⟨{ c with reader := c.reader.run c.rest, rest := [], ended := true }, hdone, ?_⟩
    have hnext : c.next = (atEnd c.failure (c.reader.run c.rest),
        { c with reader := c.reader.run c.rest, rest := [], ended := true }) := by
      simp [next, hended, hpull]
    cases hfailure : c.failure with
    | some e =>
      refine .inr ⟨?_, rfl, rfl, .inl ⟨e, by rw [hnext, hfailure]; rfl, ?_⟩⟩
      · simp [left, hended, hfailure, endedRecords, hdone]
      · simp [fault, hended, hfailure]
    | none =>
      -- the end of the table ends a record that has been started
      by_cases hopen : (c.reader.run c.rest).mode.isOpen
      · refine .inl ⟨(c.reader.run c.rest).record, by simp [hnext, hfailure, atEnd, hopen], ?_, ?_⟩
        · simp [left, hended, hfailure, allRecords_of_ended hdone, hopen]
        · simp [fault, hended, hfailure]
      · refine .inr ⟨?_, rfl, rfl, .inr ⟨by simp [hnext, hfailure, atEnd, hopen], ?_⟩⟩
        · simp [left, hended, hfailure, allRecords_of_ended hdone, hopen]
        · simp [fault, hended, hfailure]

end Cursor

end TestLocator.Csv
