/-!
# Spans of lines

* `LineSpan` — the lines from one to another, counted from `1`;
* `LineSpan.Contains`, `LineSpan.lineCount`.
-/

namespace TestLocator.Syntax

/-- The lines from `startLine` to `endLine`, both included. -/
structure LineSpan where
  startLine : Nat
  endLine : Nat
  deriving DecidableEq, Repr, Inhabited

namespace LineSpan

/-- Whether a line lies in a span. -/
def Contains (s : LineSpan) (line : Nat) : Prop := s.startLine ≤ line ∧ line ≤ s.endLine

instance (s : LineSpan) (line : Nat) : Decidable (s.Contains line) := by
  unfold Contains; infer_instance

/-- The number of lines. -/
def lineCount (s : LineSpan) : Nat := s.endLine - s.startLine + 1

end LineSpan

end TestLocator.Syntax
