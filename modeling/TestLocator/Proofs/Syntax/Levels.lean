import Mathlib.Data.List.Basic
import TestLocator.Proofs.Parsing.Levels
import TestLocator.Proofs.Syntax.Acceptance
import TestLocator.Proofs.Syntax.Kept
import TestLocator.Proofs.Syntax.NodeOrder

/-!
# Levels of syntax nodes

Lowering takes nodes out of wrappers and lists, so a node may rise. It never sinks.

* `Node.inductionOnLevels` — what passes from the children of a node to the node, on one level more,
  holds of a tree with enough levels;
* `exists_level_of_mem_kept` — what is kept of a node is on a level below it;
* **`exists_of_mem_preorder_lower`**, `exists_of_mem_preorderAll_lowerAll` — a lowered node comes
  from a node that is at least as deep;
* `ofConcrete_of_deep` — what is said of a tree that is too deep;
* **`ofText_eq_of_levels`** — a text is judged by its whole tree, not only by the levels that are
  made of it.
-/

namespace TestLocator.Syntax

open TestLocator.Parsing

/-! ## Levels in a syntax tree -/

namespace Node

theorem mem_preorderAll {x : Nat × Node} {k : Nat} {ns : List Node} :
    x ∈ preorderAll k ns ↔ ∃ c ∈ ns, x ∈ c.preorder k := by
  rw [preorderAll_eq_flatMap, List.mem_flatMap]

theorem mem_preorder_self (depth : Nat) (n : Node) : (depth, n) ∈ n.preorder depth := by
  rw [preorder]
  exact List.mem_cons_self

theorem preorder_subset_of_mem_children {c n : Node} {depth : Nat} (h : c ∈ n.children) :
    c.preorder (depth + 1) ⊆ n.preorder depth := by
  intro x hx
  rw [preorder]
  exact List.mem_cons_of_mem _ (mem_preorderAll.mpr ⟨c, h, hx⟩)

/-- Induction from the children of a node to the node, over a tree with enough levels. -/
theorem inductionOnLevels {P : Nat → Node → Prop}
    (step : ∀ k n, (∀ c ∈ n.children, P k c) → P (k + 1) n) {k depth : Nat} {n : Node}
    (h : ∀ x ∈ n.preorder depth, x.1 < depth + k) : P k n := by
  induction k generalizing n depth with
  | zero => exact absurd (h _ (mem_preorder_self depth n)) (Nat.lt_irrefl depth)
  | succ k ih =>
    refine step k n fun c hc => ?_
    have hlevels : ∀ x ∈ c.preorder (depth + 1), x.1 < depth + 1 + k := by
      intro x hx
      have hlt := h x (preorder_subset_of_mem_children hc hx)
      omega
    exact ih hlevels

end Node

/-! ## Lowering -/

variable {src : Source} {n c : Concrete}

theorem exists_level_of_mem_kept (depth : Nat) (h : c ∈ kept n) :
    ∃ k, depth < k ∧ (k, c) ∈ n.preorder depth :=
  Concrete.exists_level_of_mem_nodesAll depth (mem_nodesAll_of_mem_kept h)

/-- **A lowered node** comes from a node that is at least as deep. -/
theorem exists_of_mem_preorder_lower {x : Nat × Node} {depth : Nat} (level : Nat)
    (h : x ∈ (lower src n).preorder depth) :
    ∃ y ∈ n.preorder level, x.1 + level ≤ y.1 + depth ∧ x.2 = lower src y.2 := by
  induction n using Concrete.inductionOnSize generalizing depth level with
  | h n ih =>
    rw [Node.preorder, children_lower] at h
    rcases List.mem_cons.mp h with rfl | h
    · exact ⟨(level, n), Concrete.mem_preorder_self level n, by omega, rfl⟩
    · obtain ⟨_, hmap, hx⟩ := Node.mem_preorderAll.mp h
      obtain ⟨d, hd, rfl⟩ := List.mem_map.mp hmap
      -- the child comes from a node at least one level further down
      obtain ⟨k, hk, hdk⟩ := exists_level_of_mem_kept level hd
      obtain ⟨y, hy, hle, hxy⟩ := ih d (size_lt_of_mem_kept hd) k hx
      exact ⟨y, Concrete.preorder_subset_of_mem hdk hy, by omega, hxy⟩

theorem exists_of_mem_preorderAll_lowerAll {x : Nat × Node}
    (h : x ∈ Node.preorderAll 0 (lowerAll src n.parts)) :
    ∃ y ∈ n.preorder 0, x.1 < y.1 ∧ x.2 = lower src y.2 := by
  rw [lowerAll_eq_map] at h
  obtain ⟨_, hmap, hx⟩ := Node.mem_preorderAll.mp h
  obtain ⟨c, hc, rfl⟩ := List.mem_map.mp hmap
  obtain ⟨y, hy, hle, hxy⟩ := exists_of_mem_preorder_lower 1 hx
  have hsub : c.preorder 1 ⊆ n.preorder 0 :=
    Concrete.preorder_subset_of_mem_children (Concrete.mem_children_of_mem_parts hc)
  exact ⟨y, hsub hy, hle, hxy⟩

namespace SyntaxTree

/-! ## Trees that are too deep -/

theorem ofConcrete_of_deep (language : Language) (src : Source) {root : Concrete}
    (h : ∃ x ∈ root.preorder 0, maxNesting < x.1) :
    ∃ before deep after, root.preorder 0 = before ++ deep :: after ∧
      (∀ x ∈ before, x.1 ≤ maxNesting) ∧ maxNesting < deep.1 ∧
      ofConcrete language src root = .error (.atNode (.nesting maxNesting) deep.2) := by
  have hsome : ((root.preorder 0).find? (maxNesting < ·.1)).isSome := by
    rw [List.find?_isSome]
    simpa using h
  obtain ⟨deep, hdeep⟩ := Option.isSome_iff_exists.mp hsome
  have hfault : ofConcrete language src root = .error (.atNode (.nesting maxNesting) deep.2) := by
    rw [ofConcrete, Cursor.firstDeeperThan_ofRoot, hdeep]
    rfl
  obtain ⟨hlevel, before, after, hsplit, hbefore⟩ := List.find?_eq_some_iff_append.mp hdeep
  refine ⟨before, deep, after, hsplit, fun x hx => ?_, by simpa using hlevel, hfault⟩
  simpa using hbefore x hx

theorem ofConcrete_cut (language : Language) (src : Source) (root : Concrete) :
    ofConcrete language src (root.cut (maxNesting + 1)) = ofConcrete language src root := by
  by_cases hdeep : ∃ x ∈ root.preorder 0, maxNesting < x.1
  · -- the node that tells it is the same but for what is cut off below it
    have hlimit : maxNesting < 0 + (maxNesting + 1) := by omega
    have hdata := Concrete.find?_cut hlimit root
    rw [ofConcrete, ofConcrete, Cursor.firstDeeperThan_ofRoot, Cursor.firstDeeperThan_ofRoot]
    cases hfind : (root.preorder 0).find? (maxNesting < ·.1) with
    | none =>
      rw [List.find?_eq_none] at hfind
      obtain ⟨x, hx, hlt⟩ := hdeep
      exact absurd (by simpa using hlt) (hfind x hx)
    | some deep =>
      rw [hfind] at hdata
      obtain ⟨deep', hfind', heq⟩ := Option.map_eq_some_iff.mp hdata
      rw [hfind']
      simp [Fault.atNode, heq]
  · have hsame : root.cut (maxNesting + 1) = root := by
      have hlevels : ∀ x ∈ root.preorder 0, x.1 ≤ 0 + (maxNesting + 1) := by
        intro x hx
        have hle : ¬ maxNesting < x.1 := fun hlt => hdeep ⟨x, hx, hlt⟩
        omega
      exact Concrete.cut_eq_self hlevels
    rw [hsame]

/-- **A text is judged by its whole tree**, however many levels are made of it. -/
theorem ofText_eq_of_levels (language : Language) (text : String) {levels : Nat}
    (h : maxNesting < levels) :
    ofText language text = (Script.concreteTree language (.ofString text) levels).elim
      (.error ⟨.unknown, 1, 1⟩) (ofConcrete language (.ofString text)) := by
  rw [ofText, Script.concreteTree, Script.concreteTree]
  cases (Script.parserTables language).parse (Script.scannerOf language) (.ofString text) with
  | none => rfl
  | some t =>
    change ofConcrete language _ (Concrete.ofTree _ _ (maxNesting + 1) t) = ofConcrete language _ _
    rw [← Concrete.cut_ofTree h, ofConcrete_cut]

end SyntaxTree

end TestLocator.Syntax
