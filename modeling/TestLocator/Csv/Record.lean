import TestLocator.Text.Bytes

/-!
# Records

A table as bytes: fields are separated by commas, records by line ends, and quotes protect both.

* `Mark` — a place in a table;
* `Record` — the fields of a line;
* `Mode`, `Effect`, `Mode.next` — what a byte does;
* `Reader`, `Reader.apply`, `Reader.step` — how a reader goes from byte to byte;
* **`Reader.run`**, `recordsOf` — the records of a table.
-/

namespace TestLocator.Csv

open TestLocator.Text

/-- A place in a table: the records and bytes before it, and its line from `1`. -/
structure Mark where
  record : Nat := 0
  line : Nat := 1
  byte : Nat := 0
  deriving DecidableEq, Repr, Inhabited

/-- The fields of a record, and the place where reading it started. -/
structure Record where
  mark : Mark
  fields : List Bytes
  deriving DecidableEq, Repr, Inhabited

/-- What a reader is in. -/
inductive Mode where
  /-- Before a record; line ends are passed over. -/
  | startRecord
  /-- After a carriage return that has ended a record. -/
  | afterReturn
  /-- After a comma. -/
  | startField
  | inField
  | inQuotes
  /-- After a quote in a quoted field: it ends the quotes, or another one follows. -/
  | afterQuote
  deriving DecidableEq, Repr, Inhabited

/-- What a byte does. -/
inductive Effect where
  | skip
  | keep
  | endField
  | endRecord
  deriving DecidableEq, Repr, Inhabited

/-- The comma. -/
def comma : UInt8 := 44

/-- The quote. -/
def quoteMark : UInt8 := 34

/-- The line feed. -/
def lineFeed : UInt8 := 10

/-- The carriage return. -/
def carriageReturn : UInt8 := 13

/-- A byte in a field outside of quotes. -/
def nextInField (b : UInt8) : Mode × Effect :=
  if b = comma then (.startField, .endField)
  else if b = carriageReturn then (.afterReturn, .endRecord)
  else if b = lineFeed then (.startRecord, .endRecord)
  else (.inField, .keep)

/-- A byte at the start of a field. -/
def nextInStart (b : UInt8) : Mode × Effect :=
  if b = quoteMark then (.inQuotes, .skip) else nextInField b

/-- A byte before a record. -/
def nextBeforeRecord (b : UInt8) : Mode × Effect :=
  if b = carriageReturn ∨ b = lineFeed then (.startRecord, .skip) else nextInStart b

/-- What a byte does, and what the reader is in after it. -/
def Mode.next (m : Mode) (b : UInt8) : Mode × Effect :=
  match m with
  | startRecord => nextBeforeRecord b
  | afterReturn => if b = lineFeed then (.startRecord, .skip) else nextBeforeRecord b
  | startField => nextInStart b
  | inField => nextInField b
  | inQuotes => if b = quoteMark then (.afterQuote, .skip) else (.inQuotes, .keep)
  | afterQuote => if b = quoteMark then (.inQuotes, .keep) else nextInField b

/-- Whether a record has been started. -/
def Mode.isOpen : Mode → Bool
  | startRecord | afterReturn => false
  | startField | inField | inQuotes | afterQuote => true

/-- The place after one more byte. -/
def Mark.past (m : Mark) (b : UInt8) : Mark :=
  ⟨m.record, if b = lineFeed then m.line + 1 else m.line, m.byte + 1⟩

/-- A reader: the field, the fields and the records that it has read, all last first. -/
structure Reader where
  mode : Mode := .startRecord
  field : Bytes := []
  fields : List Bytes := []
  done : List Record := []
  /-- Where the reader stands. -/
  mark : Mark := {}
  /-- Where reading the record started. -/
  start : Mark := {}
  deriving Inhabited

namespace Reader

/-- The record that has been read, if it ends here. -/
def record (r : Reader) : Record := ⟨r.start, (r.field.reverse :: r.fields).reverse⟩

/-- The reader with the field and the record ended. -/
def finish (r : Reader) : Reader :=
  let mark := { r.mark with record := r.mark.record + 1 }
  { r with field := [], fields := [], done := r.record :: r.done, mark, start := mark }

/-- The reader after a byte that has an effect and leads to a mode. -/
def apply (r : Reader) (b : UInt8) (mode : Mode) (effect : Effect) : Reader :=
  let r := { r with mode, mark := r.mark.past b }
  match effect with
  | .skip => r
  | .keep => { r with field := b :: r.field }
  | .endField => { r with field := [], fields := r.field.reverse :: r.fields }
  | .endRecord => r.finish

/-- The reader after a byte. -/
def step (r : Reader) (b : UInt8) : Reader :=
  let (mode, effect) := r.mode.next b
  r.apply b mode effect

/-- The reader after some bytes. -/
def run (r : Reader) (bs : Bytes) : Reader := bs.foldl step r

/-- The reader at the start of a table; a byte-order mark is passed over. -/
def atFront (bs : Bytes) : Reader × Bytes :=
  match bs with
  | 0xEF :: 0xBB :: 0xBF :: rest => ({ mark := { byte := 3 } }, rest)
  | _ => ({}, bs)

end Reader

/-- The records of a table. The last one may be ended by the end of the table. -/
def recordsOf (bs : Bytes) : List Record :=
  let (r, bs) := Reader.atFront bs
  let r := r.run bs
  (if r.mode.isOpen then r.finish else r).done.reverse

end TestLocator.Csv
