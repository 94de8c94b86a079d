import TestLocator.Parsing.Concrete
import TestLocator.Text.Lines

/-!
# Faults of a text

* `FaultCause`, `Fault` — what is wrong with a text, and where;
* `Fault.message`;
* **`firstFault`** — the first node of a tree that is missing or unexpected.
-/

namespace TestLocator.Syntax

open TestLocator.Parsing

/-- What is wrong with a text. -/
inductive FaultCause where
  /-- Something of a kind is missing. -/
  | missing (kind : String)
  /-- Something does not fit; this is how it starts. -/
  | unexpected (snippet : String)
  /-- The text is nested too deep. -/
  | nesting (limit : Nat)
  /-- The text is wrong, but no node tells where. -/
  | unknown
  deriving DecidableEq, Repr, Inhabited

/-- What is wrong with a text and where: line and column from `1`, the column in bytes. -/
structure Fault where
  cause : FaultCause
  line : Nat
  column : Nat
  deriving DecidableEq, Repr, Inhabited

/-- The wording of a fault. -/
def Fault.message (f : Fault) : String :=
  let place := s!" at line {f.line}, column {f.column}"
  match f.cause with
  | .missing kind => "missing `" ++ kind ++ "`" ++ place
  | .unexpected snippet => "unexpected `" ++ snippet ++ "`" ++ place
  | .nesting limit => s!"nesting deeper than {limit} levels" ++ place
  | .unknown => "invalid syntax"

/-- A fault at the start of a node. -/
def Fault.atNode (cause : FaultCause) (n : Concrete) : Fault :=
  ⟨cause, n.data.start.row + 1, n.data.start.column + 1⟩

/-- So much of an unexpected text is quoted. -/
def snippetLength : Nat := 24

/-- How a text starts: its first line, cut short. -/
def snippet (text : String) : String :=
  match Text.splitLines text.toList with
  | [] => ""
  | l :: _ => String.ofList (l.take snippetLength)

/-- The fault of a node itself. -/
def ownFault (src : Source) (n : Concrete) : Option Fault :=
  if n.data.missing then some (.atNode (.missing n.kind) n)
  else if n.data.unexpected then some (.atNode (.unexpected (snippet (n.text src))) n)
  else none

mutual

/-- The first fault in a tree: a node comes before those in it, and those without errors are passed
over. -/
def firstFault (src : Source) : Concrete → Option Fault
  | .node d cs =>
    match ownFault src (.node d cs) with
    | some f => some f
    | none => firstFaultAmong src cs

/-- The first fault in some trees. -/
def firstFaultAmong (src : Source) : List Concrete → Option Fault
  | [] => none
  | c :: cs =>
    if c.data.hasError then
      match firstFault src c with
      | some f => some f
      | none => firstFaultAmong src cs
    else firstFaultAmong src cs

end

end TestLocator.Syntax
