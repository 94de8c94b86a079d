import TestLocator.Json.Writer
import TestLocator.Locating.Search

/-!
# Reports

What a search tells its user.

* `Outcome`, `report` — the members of an outcome's object: those of the match, or the failure;
* `Format`, **`render`** — an outcome as a text.
-/

namespace TestLocator.Locating

open TestLocator.Json

/-- What a search has come to. -/
abbrev Outcome := Except Failure TestBlock

/-- The members that tell an outcome. -/
def report : Outcome → Members
  | .ok b => [("text", .text b.text), ("start_line", .natural b.startLine),
      ("end_line", .natural b.endLine)]
  | .error e => [("error", .text e.message)]

/-- How an outcome is told. -/
inductive Format where
  | plain
  | json
  deriving DecidableEq, Repr, Inhabited

/-- An outcome in plain words: the lines of the match and its text, or the failure. -/
def renderPlain : Outcome → String
  | .ok b => b.rangeLabel ++ "\n" ++ b.text
  | .error e => "Error: " ++ e.message

/-- An outcome as a text. -/
def render (outcome : Outcome) : Format → String
  | .plain => renderPlain outcome
  | .json => String.ofList (pretty (report outcome))

end TestLocator.Locating
