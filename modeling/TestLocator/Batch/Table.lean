import TestLocator.Batch.Row
import TestLocator.Csv.Cursor
import TestLocator.Csv.Writer

/-!
# Tables of rows

* `BatchFailure` — why a whole batch fails;
* `Column`, `CellFault`, `decodeNamed`, `decodePlaced`, `decodeRow` — the row that a record is;
* `ByteStream`, `readFrom`, **`readRows`** — the rows of an input, whose reading may break off;
* `ByteSink`, **`writeRows`** — writing the rows of an output, which may break off as well.
-/

namespace TestLocator.Batch

open TestLocator.Csv TestLocator.Files TestLocator.Locating TestLocator.Text

/-- Why a whole batch fails. -/
inductive BatchFailure where
  | invalidProjectRoot (path : Path)
  | missingProjectRoot
  | input (path : Path) (cause : AccessFailure)
  | output (path : Path) (cause : AccessFailure)
  deriving DecidableEq, Repr, Inhabited

/-- The wording of a failure. -/
def BatchFailure.message : BatchFailure → String
  | invalidProjectRoot path => "Invalid project root: " ++ path.text
  | missingProjectRoot =>
    "No project root configured (use --project-root, PROJECT_PATH or .smellblock.toml)"
  | input path cause => "Error reading input CSV " ++ path.text ++ ": " ++ cause.message
  | output path cause => "Error writing output CSV " ++ path.text ++ ": " ++ cause.message

/-! ## Decoding records -/

/-- The columns that count. -/
inductive Column where
  | repository
  | file
  | lines
  deriving DecidableEq, Repr, Inhabited

namespace Column

/-- The name of a column. -/
def name : Column → String
  | repository => "Repository"
  | file => "File"
  | lines => "Lines"

/-- The column of a name. -/
def ofName? (s : String) : Option Column :=
  [repository, file, lines].find? fun c => c.name == s

end Column

/-- The cell of a column. -/
def SmellRow.cell (r : SmellRow) : Column → Option String
  | .repository => r.repository
  | .file => r.file
  | .lines => r.lines

/-- Put a value into a column. -/
def SmellRow.setCell (r : SmellRow) (c : Column) (value : Option String) : SmellRow :=
  match c with
  | .repository => { r with repository := value }
  | .file => { r with file := value }
  | .lines => { r with lines := value }

/-- Why a record is no row. -/
inductive CellFault where
  /-- A field is no text: the number of the field and of its first bad byte. -/
  | invalidText (field index : Nat)
  /-- A cell of an unknown column is missing. -/
  | endOfRow
  /-- A column has been named twice. -/
  | duplicate (c : Column)
  deriving DecidableEq, Repr, Inhabited

/-- The wording for a record that is no row. -/
def CellFault.message (m : Mark) : CellFault → String
  | invalidText field index =>
    s!"CSV parse error: record {m.record} (line {m.line}, field: {field}, byte: {m.byte}): " ++
      s!"invalid utf-8: invalid UTF-8 in field {field} near byte index {index}"
  | endOfRow =>
    s!"CSV deserialize error: record {m.record} (line: {m.line}, byte: {m.byte}): " ++
      "expected field, but got end of row"
  | duplicate c =>
    s!"CSV deserialize error: record {m.record} (line: {m.line}, byte: {m.byte}): " ++
      "duplicate field `" ++ c.name ++ "`"

/-- The texts of some fields, the first of them having the number `n`. -/
def decodeFields (n : Nat) : List Bytes → Except CellFault (List (List Char))
  | [] => .ok []
  | f :: fs =>
    match decode? f with
    | none => .error (.invalidText n (validLength f))
    | some cs => (decodeFields (n + 1) fs).map (cs :: ·)

/-- The value of a cell: an empty one has none. -/
def cellValue (cell : List Char) : Option String :=
  if cell.isEmpty then none else some (String.ofList cell)

/-- Put the cells under the names of their columns. A known column may lack its cell, an unknown one
may not. `seen` are the columns that have been named. -/
def decodeNamed (row : SmellRow) (seen : List Column) :
    List String → List (List Char) → Except CellFault SmellRow
  | [], _ => .ok row
  | name :: names, cells =>
    match Column.ofName? name with
    | none =>
      match cells with
      | [] => .error .endOfRow
      | _ :: cells => decodeNamed row seen names cells
    | some c =>
      if seen.contains c then .error (.duplicate c)
      else
        match cells with
        | [] => decodeNamed row (c :: seen) names []
        | cell :: cells => decodeNamed (row.setCell c (cellValue cell)) (c :: seen) names cells

/-- Put the cells into the columns by their places. -/
def decodePlaced (cells : List (List Char)) : SmellRow :=
  { repository := cells[0]?.bind cellValue
    file := cells[1]?.bind cellValue
    lines := cells[2]?.bind cellValue }

/-- The names in a header, if it is a text. -/
def headerNames? (header : Record) : Option (List String) :=
  match decodeFields 0 header.fields with
  | .ok names => some (names.map String.ofList)
  | .error _ => none

/-- The row that a record is. Without names the cells count by their places. -/
def decodeRow (names : Option (List String)) (r : Record) : Except CellFault SmellRow :=
  match decodeFields 0 r.fields with
  | .error e => .error e
  | .ok cells =>
    match names with
    | some names => decodeNamed {} [] names cells
    | none => .ok (decodePlaced cells)

/-- The wording for a record that is no row. -/
def undecodableRow (m : Mark) (e : CellFault) : Failure :=
  .malformedInput ("undecodable row: " ++ e.message m)

/-- A row of the input, or why the record is none. -/
abbrev InputRow := Except Failure SmellRow

/-- The row of the input that a record is, or why it is none. -/
def inputRow (names : Option (List String)) (r : Record) : InputRow :=
  match decodeRow names r with
  | .ok row => .ok row
  | .error e => .error (undecodableRow r.mark e)

/-! ## Reading -/

/-- Bytes that come one after the other, and how they end: well or with a failure. -/
structure ByteStream where
  bytes : Bytes
  failure : Option AccessFailure := none
  deriving Inhabited

/-- The names that reading the header gives. The end of the table gives none of them; a failure, like
a header that is no text, lets the cells count by their places. -/
def namesOf : Except AccessFailure (Option Record) → Option (List String)
  | .ok (some header) => headerNames? header
  | .ok none => some []
  | .error _ => none

/-- The rows from a cursor on, behind `rows`, which come last first. -/
def readFrom (source : Path) (names : Option (List String)) (rows : List InputRow)
    (c : Cursor AccessFailure) : Except BatchFailure (List InputRow) :=
  match _h : c.next with
  | (.error cause, _) => .error (.input source cause)
  | (.ok none, _) => .ok rows.reverse
  | (.ok (some record), c') => readFrom source names (inputRow names record :: rows) c'
termination_by c.size
decreasing_by exact Cursor.size_lt_of_next _h

/-- The rows of an input. Its header is read ahead of them; what has become of that does not end the
reading. -/
def readRows (stream : ByteStream) (source : Path) : Except BatchFailure (List InputRow) :=
  let (header, c) := (Cursor.ofBytes stream.bytes stream.failure).next
  readFrom source (namesOf header) [] c

/-! ## Writing -/

/-- A place for bytes that may take only so many before it fails. -/
structure ByteSink where
  /-- How many bytes it takes; all if there is no limit. -/
  limit : Option Nat := none
  failure : AccessFailure := ⟨.other, ""⟩
  deriving Inhabited

/-- The header of the output. -/
def outputHeader : List (List Char) :=
  ["A (filename)".toList, "B (test)".toList, "C (start: ... end: ....)".toList]

/-- The cells of a row, in the order of the header. -/
def OutputRow.cells (r : OutputRow) : List (List Char) :=
  [r.filename.toList, r.test.toList, r.range.toList]

/-- The output for some rows. -/
def renderRows (rows : List OutputRow) : List Char :=
  writeTable outputHeader (rows.map OutputRow.cells)

/-- Write rows to a sink: what the sink has taken, and whether that was all. -/
def writeRows (sink : ByteSink) (destination : Path) (rows : List OutputRow) :
    Bytes × Except BatchFailure Unit :=
  let bytes := encode (renderRows rows)
  match sink.limit with
  | none => (bytes, .ok ())
  | some n =>
    if bytes.length ≤ n then (bytes, .ok ())
    else (bytes.take n, .error (.output destination sink.failure))

end TestLocator.Batch
