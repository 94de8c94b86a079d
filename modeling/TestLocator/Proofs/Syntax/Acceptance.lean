import TestLocator.Proofs.Parsing.Walk
import TestLocator.Syntax.Tree

/-!
# Texts that a grammar accepts

A grammar rejects a text whose concrete tree is too deep or has an error, and no other text that it
makes a tree of.

* `ofConcrete_rejects_iff`, `ofConcrete_eq_ok_iff` — the trees that are no syntax trees, and what
  becomes of the others;
* **`ofText_rejects_iff`** — the texts that a grammar rejects;
* `ofText_eq_ok_iff` — the syntax tree of a text.
-/

namespace TestLocator.Syntax.SyntaxTree

open TestLocator.Parsing

theorem ofConcrete_rejects_iff (language : Language) (src : Source) (root : Concrete) :
    (∃ fault, ofConcrete language src root = .error fault) ↔
      (∃ x ∈ root.preorder 0, maxNesting < x.1) ∨ root.data.hasError := by
  have hdeep : (∃ x ∈ root.preorder 0, maxNesting < x.1) ↔
      (Cursor.firstDeeperThan maxNesting (.ofRoot root) 0).isSome := by
    rw [Option.isSome_iff_ne_none, Ne, Cursor.firstDeeperThan_eq_none_iff]
    simp
  rw [hdeep, ofConcrete]
  cases Cursor.firstDeeperThan maxNesting (.ofRoot root) 0 with
  | some n => simp
  | none => cases root.data.hasError <;> simp

theorem ofConcrete_eq_ok_iff {language : Language} {src : Source} {root : Concrete}
    {t : SyntaxTree} : ofConcrete language src root = .ok t ↔
      (∀ x ∈ root.preorder 0, x.1 ≤ maxNesting) ∧ root.data.hasError = false ∧
        t = ⟨language, lowerAll src root.parts⟩ := by
  have hrejects := ofConcrete_rejects_iff language src root
  constructor
  · intro h
    have haccepted : ¬ ∃ fault, ofConcrete language src root = .error fault := by simp [h]
    rw [hrejects] at haccepted
    simp only [not_or, not_exists, not_and, Nat.not_lt, Bool.not_eq_true] at haccepted
    refine ⟨haccepted.1, haccepted.2, ?_⟩
    unfold ofConcrete at h
    split at h
    · cases h
    · rw [if_neg (by simp [haccepted.2])] at h
      exact (Except.ok.inj h).symm
  · rintro ⟨hlevel, herror, rfl⟩
    simp [ofConcrete, Cursor.firstDeeperThan_eq_none_iff.mpr hlevel, herror]

/-- **The texts that a grammar rejects** have no tree, or one that is too deep or has an error. -/
theorem ofText_rejects_iff (language : Language) (text : String) :
    (∃ fault, ofText language text = .error fault) ↔
      ∀ root, Script.concreteTree language (.ofString text) (maxNesting + 1) = some root →
        (∃ x ∈ root.preorder 0, maxNesting < x.1) ∨ root.data.hasError := by
  rw [ofText]
  cases Script.concreteTree language (.ofString text) (maxNesting + 1) with
  | none => simp
  | some root => simpa using ofConcrete_rejects_iff language (.ofString text) root

theorem ofText_eq_ok_iff {language : Language} {text : String} {t : SyntaxTree} :
    ofText language text = .ok t ↔
      ∃ root, Script.concreteTree language (.ofString text) (maxNesting + 1) = some root ∧
        ofConcrete language (.ofString text) root = .ok t := by
  rw [ofText]
  cases Script.concreteTree language (.ofString text) (maxNesting + 1) <;> simp

end TestLocator.Syntax.SyntaxTree
