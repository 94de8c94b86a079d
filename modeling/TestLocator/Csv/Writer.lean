/-!
# Writing tables

* `needsQuotes`, `doubleQuotes`, `writeField`, `writeRecord`;
* **`writeTable`** — a table with its header.
-/

namespace TestLocator.Csv

/-- Whether a field needs quotes: it holds a quote, a comma or a line end. -/
def needsQuotes (field : List Char) : Bool :=
  field.any fun c => c = '"' ∨ c = ',' ∨ c = '\n' ∨ c = '\r'

/-- A text with each quote in it written twice. -/
def doubleQuotes (field : List Char) : List Char :=
  field.flatMap fun c => if c = '"' then ['"', '"'] else [c]

/-- A field, between quotes if it needs them. -/
def writeField (field : List Char) : List Char :=
  if needsQuotes field then '"' :: doubleQuotes field ++ ['"'] else field

/-- A record with its line end. -/
def writeRecord (fields : List (List Char)) : List Char :=
  [','].intercalate (fields.map writeField) ++ ['\n']

/-- A table. The header is written with the first record, so that no record gives no header. -/
def writeTable (header : List (List Char)) (rows : List (List (List Char))) : List Char :=
  match rows with
  | [] => []
  | _ :: _ => (header :: rows).flatMap writeRecord

end TestLocator.Csv
