import TestLocator.Csv.Record

/-!
# Records one by one

The bytes of a table may come from a place where reading fails before the table ends. A cursor hands
out the records as far as the bytes come.

* `Reader.pull` — read on to the end of a record;
* `Cursor`, `Cursor.ofBytes` — a table that is being read;
* **`Cursor.next`** — the next record, or the end of the table, or the failure.
-/

namespace TestLocator.Csv

open TestLocator.Text

/-- Read on until a record has been ended: the record, the reader after it, and the bytes after it.
If none is ended, all bytes have been read. -/
def Reader.pull (r : Reader) : Bytes → Option Record × Reader × Bytes
  | [] => (none, r, [])
  | b :: bs =>
    let r := r.step b
    match r.done with
    | [] => r.pull bs
    | record :: _ => (some record, { r with done := [] }, bs)

theorem Reader.length_lt_of_pull {r r' : Reader} {bs bs' : Bytes} {record : Record}
    (h : r.pull bs = (some record, r', bs')) : bs'.length < bs.length := by
  fun_induction pull r bs with
  | case1 => cases h
  | case2 r b bs r₁ hdone ih => exact Nat.lt_succ_of_lt (ih h)
  | case3 r b bs r₁ record' older hdone =>
    obtain ⟨-, h⟩ := Prod.mk.inj h
    obtain ⟨-, rfl⟩ := Prod.mk.inj h
    exact Nat.lt_succ_self _

theorem Reader.rest_of_pull {r r' : Reader} {bs bs' : Bytes}
    (h : r.pull bs = (none, r', bs')) : bs' = [] := by
  fun_induction pull r bs with
  | case1 => cases h; rfl
  | case2 r b bs r₁ hdone ih => exact ih h
  | case3 => cases h

/-- A table that is being read. -/
structure Cursor (ε : Type) where
  /-- The reader after the records that have been handed out. -/
  reader : Reader
  /-- The bytes that are still to come. -/
  rest : Bytes
  /-- Why reading fails after these bytes, if it does. -/
  failure : Option ε
  /-- Whether the end or the failure has been met. -/
  ended : Bool := false

namespace Cursor

variable {ε : Type}

/-- The cursor in front of a table. -/
def ofBytes (bs : Bytes) (failure : Option ε) : Cursor ε :=
  let (reader, rest) := Reader.atFront bs
  { reader, rest, failure }

/-- What a reader hands out when all bytes have been read. A record that has been started is ended by
the end of the table, but it is lost in a failure. -/
def atEnd (failure : Option ε) (r : Reader) : Except ε (Option Record) :=
  match failure with
  | some e => .error e
  | none => .ok (if r.mode.isOpen then some r.record else none)

/-- The next record, if there is one, and the cursor after it. A failure is told once; after it there
are no more records. -/
def next (c : Cursor ε) : Except ε (Option Record) × Cursor ε :=
  if c.ended then (.ok none, c)
  else
    match c.reader.pull c.rest with
    | (some record, reader, rest) => (.ok (some record), { c with reader, rest })
    | (none, reader, rest) => (atEnd c.failure reader, { c with reader, rest, ended := true })

/-- How far a cursor is from the end. -/
def size (c : Cursor ε) : Nat := c.rest.length + if c.ended then 0 else 1

theorem size_lt_of_next {c c' : Cursor ε} {record : Record}
    (h : c.next = (.ok (some record), c')) : c'.size < c.size := by
  unfold next at h
  split at h
  · cases h
  · rename_i hended
    split at h
    · rename_i hpull
      obtain ⟨-, rfl⟩ := Prod.mk.inj h
      have hlt := Reader.length_lt_of_pull hpull
      simp only [size, hended]
      omega
    · rename_i hpull
      obtain ⟨-, rfl⟩ := Prod.mk.inj h
      have hrest := Reader.rest_of_pull hpull
      simp [size, hended, hrest]

end Cursor

end TestLocator.Csv
