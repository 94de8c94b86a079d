import TestLocator.Json.Reader
import TestLocator.Locating.Failure
import TestLocator.Text.Blank
import TestLocator.Text.Quoted

/-!
# Position descriptors

A row tells its position by a text such as `10` or an object with the members `startLine` or `line`,
in double or single quotes.

* `candidate?` — the value in a descriptor that tells the line;
* **`targetLine`** — the line that a descriptor tells.
-/

namespace TestLocator.Batch

open TestLocator.Json TestLocator.Locating TestLocator.Text

/-- A descriptor as a text of the JSON format: without blanks around it and with double quotes. -/
def normalizeDescriptor (raw : List Char) : List Char :=
  (trim raw).map fun c => if c = '\'' then '"' else c

/-- The value that tells the line: a number itself, and of an object the first line if it stands for
something, else the line. -/
def candidate? : Value → Option Value
  | .object members =>
    match (Value.memberIn? "startLine" members).filter (·.isTruthy) with
    | some v => some v
    | none => Value.memberIn? "line" members
  | .number n => some (.number n)
  | _ => none

/-- The line that a value tells. -/
def lineOf? (v : Value) : Option Nat :=
  ((candidate? v).bind Value.natural?).filter (0 < ·)

/-- The wording for a descriptor that is not there. -/
def missingLines : Failure := .malformedInput "missing \"Lines\" field"

/-- The wording for a descriptor that is no value. -/
def undecodableLines (raw : String) (fault : Fault) : Failure :=
  .malformedInput ("invalid \"Lines\" descriptor " ++ quote raw ++ ": " ++ fault.message)

/-- The wording for a value that tells no line. -/
def unusableLines : Failure := .malformedInput "invalid \"Lines\" field format"

/-- The line that a descriptor tells. -/
def targetLine (raw : String) : Except Failure Nat :=
  match normalizeDescriptor raw.toList with
  | [] => .error missingLines
  | c :: cs =>
    match Value.ofText (c :: cs) with
    | .error fault => .error (undecodableLines raw fault)
    | .ok v =>
      match lineOf? v with
      | some n => .ok n
      | none => .error unusableLines

end TestLocator.Batch
