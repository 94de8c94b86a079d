import Mathlib.Data.List.Basic
import TestLocator.Locating.Search

/-!
# Slices of documents

* `Document.linesFrom` — the lines of a document from one number to another;
* `Document.linesFrom_eq` — in a list of lines they stand one after the other;
* `Document.slice?_eq`, `blockAt?_eq` — when there is a slice or a block, and what it holds.
-/

namespace TestLocator.Locating

namespace Document

variable (d : Document)

/-- The lines from one number to another, both included, as far as there are such lines. -/
def linesFrom (first last : Nat) : List String :=
  (List.range' first (last + 1 - first)).filterMap d.line?

theorem filterMap_line?_range' {n : Nat} : ∀ {k : Nat}, n + k ≤ d.lineCount →
    (List.range' (n + 1) k).filterMap d.line? = (d.lines.drop n).take k
  | 0, _ => by simp
  | k + 1, h => by
    have hn : n < d.lines.length := by unfold lineCount at h; omega
    have hline : d.line? (n + 1) = some d.lines[n] := by
      simp [line?, List.getElem?_eq_getElem hn]
    rw [List.range'_succ, List.filterMap_cons_some hline, filterMap_line?_range' (by omega),
      List.drop_eq_getElem_cons hn, List.take_succ_cons]

theorem linesFrom_eq {first last : Nat} (h₁ : 1 ≤ first) (h₂ : first ≤ last)
    (h₃ : last ≤ d.lineCount) :
    d.linesFrom first last = (d.lines.drop (first - 1)).take (last - first + 1) := by
  obtain ⟨n, rfl⟩ : ∃ n, first = n + 1 := ⟨first - 1, by omega⟩
  rw [linesFrom, filterMap_line?_range' d (by omega), Nat.add_sub_cancel]
  congr 1
  omega

theorem slice?_eq (first last : Nat) :
    d.slice? first last = if 1 ≤ first ∧ first ≤ last ∧ last ≤ d.lineCount then
      some ("\n".intercalate (d.linesFrom first last)) else none := by
  by_cases h : 1 ≤ first ∧ first ≤ last ∧ last ≤ d.lineCount
  · rw [if_pos h, slice?, if_neg (by omega), d.linesFrom_eq h.1 h.2.1 h.2.2]
  · rw [if_neg h, slice?, if_pos (by omega)]

end Document

theorem blockAt?_eq (d : Document) (first last : Nat) :
    blockAt? d first last = if 1 ≤ first ∧ first ≤ last ∧ last ≤ d.lineCount then
      some ⟨"\n".intercalate (d.linesFrom first last), first, last⟩ else none := by
  rw [blockAt?, d.slice?_eq]
  split_ifs <;> rfl

end TestLocator.Locating
