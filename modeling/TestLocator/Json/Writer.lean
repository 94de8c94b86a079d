import TestLocator.Json.Value

/-!
# Writing objects

Objects of texts and natural numbers, in two layouts.

* `escape`, `quoted` — texts;
* `Datum`, `Datum.written`, `Datum.value` — the values that are written;
* **`compact`**, **`pretty`** — the two layouts.
-/

namespace TestLocator.Json

/-- A digit of base sixteen. -/
def hexDigit (n : Nat) : Char := Char.ofNat (if n < 10 then 48 + n else 87 + n)

/-- How a character stands in a text: quotes, backslashes and control characters are escaped. -/
def escape (c : Char) : List Char :=
  if c = '"' then ['\\', '"']
  else if c = '\\' then ['\\', '\\']
  else if c = '\x08' then ['\\', 'b']
  else if c = '\t' then ['\\', 't']
  else if c = '\n' then ['\\', 'n']
  else if c = '\x0c' then ['\\', 'f']
  else if c = '\r' then ['\\', 'r']
  else if c < ' ' then
    ['\\', 'u', '0', '0', hexDigit (c.toNat / 16), hexDigit (c.toNat % 16)]
  else [c]

/-- A text with its quotes. -/
def quoted (cs : List Char) : List Char := '"' :: cs.flatMap escape ++ ['"']

/-- A value that is written. -/
inductive Datum where
  | text (s : String)
  | natural (n : Nat)
  deriving DecidableEq, Repr, Inhabited

/-- How a value is written. -/
def Datum.written : Datum → List Char
  | text s => quoted s.toList
  | natural n => Nat.toDigits 10 n

/-- The value that is written. -/
def Datum.value : Datum → Value
  | text s => .string s
  | natural n => .number (.natural n)

/-- The members of an object, in their order. -/
abbrev Members := List (String × Datum)

/-- The object of some members. -/
def Members.value (ms : Members) : Value := .object (ms.map fun m => (m.1, m.2.value))

/-- An object on one line, without blanks. -/
def compact (ms : Members) : List Char :=
  '\x7b' :: [','].intercalate (ms.map fun m => quoted m.1.toList ++ ':' :: m.2.written) ++ ['\x7d']

/-- An object with a line for each member. -/
def pretty (ms : Members) : List Char :=
  if ms.isEmpty then ['\x7b', '\x7d']
  else
    ['\x7b', '\n'] ++
      [',', '\n'].intercalate
        (ms.map fun m => [' ', ' '] ++ quoted m.1.toList ++ [':', ' '] ++ m.2.written) ++
      ['\n', '\x7d']

end TestLocator.Json
