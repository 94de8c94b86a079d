import TestLocator.Locating.Document
import TestLocator.Toml.Reader

/-!
# Settings

* `Settings` — what a configuration file tells;
* **`Settings.ofText?`** — the settings of a text.
-/

namespace TestLocator.Config

open TestLocator.Files TestLocator.Locating TestLocator.Toml

/-- What a configuration file tells. -/
structure Settings where
  projectRoot : Option Path := none
  marker : String := defaultMarker
  parallel : Bool := true
  jobs : Nat := 0
  deriving DecidableEq, Repr, Inhabited

/-- A value as a text. -/
def asString? : Value → Option String
  | .string s => some s
  | _ => none

/-- A value as a truth value. -/
def asBoolean? : Value → Option Bool
  | .boolean b => some b
  | _ => none

/-- A value as a natural number of 64 bits. -/
def asNatural? : Value → Option Nat
  | .integer n => if 0 ≤ n ∧ n.toNat < Nat.pow 2 64 then some n.toNat else none
  | _ => none

/-- What a value that may be absent tells; a default stands for an absent one. -/
def orDefault (value : Option Value) (default : α) (f : Value → Option α) : Option α :=
  match value with
  | none => some default
  | some v => f v

/-- The settings of batches: by name, or by place in an array. A date names none. -/
def batchSettings? : Value → Option (Bool × Nat)
  | .table _ es => do
    let parallel ← orDefault (es.lookup "parallel") true asBoolean?
    let jobs ← orDefault (es.lookup "jobs") 0 asNatural?
    return (parallel, jobs)
  | .array items | .tables items => do
    let parallel ← orDefault items[0]? true asBoolean?
    let jobs ← orDefault items[1]? 0 asNatural?
    return (parallel, jobs)
  | .dateTime => some (true, 0)
  | _ => none

/-- A marker with a line feed would join lines; the default stands for it. -/
def usableMarker (marker : String) : String :=
  if marker.toList.contains '\n' then defaultMarker else marker

/-- The settings that entries tell. Unknown entries do not count. -/
def Settings.ofEntries? (es : Entries) : Option Settings := do
  let root ← orDefault (es.lookup "project_root") none fun v => (asString? v).map some
  let marker ← orDefault (es.lookup "expect_error_marker") defaultMarker asString?
  let (parallel, jobs) ← orDefault (es.lookup "batch") (true, 0) batchSettings?
  return { projectRoot := root.map Files.Path.mk, marker := usableMarker marker, parallel, jobs }

/-- The settings of a text. -/
def Settings.ofText? (text : String) : Option Settings :=
  (document? text.toList).bind Settings.ofEntries?

end TestLocator.Config
