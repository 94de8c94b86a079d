import TestLocator.Files.View

/-!
# Failures

* `FailureKind`, `Failure` — why no test is found;
* `Failure.kind`, `Failure.message`.
-/

namespace TestLocator.Locating

open TestLocator.Files

/-- What sort of failure it is. -/
inductive FailureKind where
  | fileNotFound
  | parse
  | noMatch
  | malformedInput
  | unreadable
  deriving DecidableEq, Repr, Inhabited

/-- Why no test is found. -/
inductive Failure where
  | fileNotFound (path : Path)
  | parse (path : Path) (line column : Nat) (reason : String)
  | noMatch (path : Path) (line : Nat)
  | malformedInput (reason : String)
  | unreadable (path : Path) (cause : AccessFailure)
  deriving DecidableEq, Repr, Inhabited

/-- The wording for a line that no test encloses. -/
def noMatchMessage : String := "No test method found containing the specified line."

namespace Failure

/-- What sort of failure it is. -/
def kind : Failure → FailureKind
  | fileNotFound _ => .fileNotFound
  | parse .. => .parse
  | noMatch .. => .noMatch
  | malformedInput _ => .malformedInput
  | unreadable .. => .unreadable

/-- The wording of a failure. -/
def message : Failure → String
  | fileNotFound path => "File not found: " ++ path.text
  | parse _ _ _ reason => "Parsing error: " ++ reason
  | noMatch .. => noMatchMessage
  | malformedInput reason => "Malformed input: " ++ reason
  | unreadable path cause => "Failed to read " ++ path.text ++ ": " ++ cause.message

/-- The failure of reading a file. A file that is not there is a case of its own. -/
def ofAccess (path : Path) (cause : AccessFailure) : Failure :=
  if cause.kind = .notFound then .fileNotFound path else .unreadable path cause

end Failure

end TestLocator.Locating
