import TestLocator.Proofs.Locating.Slices
import TestLocator.Proofs.Syntax.NodeOrder

/-!
# The first match

A search walks down a tree and comes back at the first hit. What it finds is the first node, in the
order of the tree, that is a match for the line.

* `Eligible`, `blockOf` — the nodes that are a match for a line, and the block of such a node;
* `ownBlock_eq` — a node is looked at for what it is, whatever stands around it;
* `findBelow_eq`, `findAmong_eq` — the search in a node and in some nodes;
* **`findInTree_first_eligible`** — the search in a tree.
-/

namespace TestLocator.Locating

open TestLocator.Syntax

variable {d : Document} {line : Nat} {n : Node} {ns : List Node}

/-- A node is a match for a line: it encloses the line, it declares a test, and its lines are lines
of the document. -/
structure Eligible (d : Document) (line : Nat) (n : Node) : Prop where
  encloses : n.span.Contains line
  declares : (recognize n).isSome
  first_pos : 1 ≤ n.span.startLine
  first_le_last : n.span.startLine ≤ n.span.endLine
  last_le : n.span.endLine ≤ d.lineCount

theorem eligible_iff : Eligible d line n ↔
    (n.span.Contains line ∧ (recognize n).isSome) ∧
      1 ≤ n.span.startLine ∧ n.span.startLine ≤ n.span.endLine ∧ n.span.endLine ≤ d.lineCount :=
  ⟨fun h => ⟨⟨h.1, h.2⟩, h.3, h.4, h.5⟩, fun h => ⟨h.1.1, h.1.2, h.2.1, h.2.2.1, h.2.2.2⟩⟩

instance : Decidable (Eligible d line n) := decidable_of_iff' _ eligible_iff

/-- The block that the lines of a node are: those lines with line feeds between them. -/
def blockOf (d : Document) (n : Node) : TestBlock where
  text := "\n".intercalate (d.linesFrom n.span.startLine n.span.endLine)
  startLine := n.span.startLine
  endLine := n.span.endLine

theorem ownBlock_eq (d : Document) (line : Nat) (n : Node) :
    ownBlock d line n = if Eligible d line n then some (blockOf d n) else none := by
  rw [ownBlock, blockAt?_eq, ← ite_and]
  exact if_congr eligible_iff.symm rfl rfl

theorem findAmong_eq_of_findBelow_eq
    (h : ∀ c ∈ ns, findBelow d line c = (c.nodes.find? (Eligible d line ·)).map (blockOf d)) :
    findAmong d line ns = ((Node.nodesAll ns).find? (Eligible d line ·)).map (blockOf d) := by
  induction ns with
  | nil => rw [findAmong, Node.nodesAll_nil]; rfl
  | cons c cs ih =>
    rw [findAmong, h c List.mem_cons_self, ih fun c hc => h c (List.mem_cons_of_mem _ hc),
      Node.nodesAll_cons, List.find?_append]
    cases c.nodes.find? (Eligible d line ·) <;> rfl

theorem findBelow_eq (d : Document) (line : Nat) (n : Node) :
    findBelow d line n = (n.nodes.find? (Eligible d line ·)).map (blockOf d) := by
  induction n using Node.inductionOnChildren with
  | h n ih =>
    rw [findBelow, ownBlock_eq, Node.nodes_eq, List.find?_cons]
    by_cases h : Eligible d line n
    · simp [h]
    · simp [h, findAmong_eq_of_findBelow_eq ih]

theorem findAmong_eq (d : Document) (line : Nat) (ns : List Node) :
    findAmong d line ns = ((Node.nodesAll ns).find? (Eligible d line ·)).map (blockOf d) :=
  findAmong_eq_of_findBelow_eq fun c _ => findBelow_eq d line c

theorem findInTree_eq (t : SyntaxTree) (d : Document) (line : Nat) :
    findInTree t d line = (t.nodes.find? (Eligible d line ·)).map (blockOf d) :=
  findAmong_eq d line t.statements

theorem exists_of_find?_eligible {b : TestBlock}
    (h : (ns.find? (Eligible d line ·)).map (blockOf d) = some b) :
    ∃ m ∈ ns, Eligible d line m ∧ b = blockOf d m := by
  obtain ⟨m, hm, rfl⟩ := Option.map_eq_some_iff.mp h
  exact ⟨m, List.mem_of_find?_eq_some hm, by simpa using List.find?_some hm, rfl⟩

/-- **A search finds the first match and nothing else.** -/
theorem findInTree_first_eligible (t : SyntaxTree) (d : Document) (line : Nat) :
    (∀ b, findInTree t d line = some b ↔ ∃ before n after, t.nodes = before ++ n :: after ∧
      Eligible d line n ∧ (∀ m ∈ before, ¬ Eligible d line m) ∧ b = blockOf d n) ∧
    (findInTree t d line = none ↔ ∀ n ∈ t.nodes, ¬ Eligible d line n) ∧
    ∀ before n after, t.nodes = before ++ (n.nodes ++ after) →
      (∀ m ∈ before, ¬ Eligible d line m) →
      (Eligible d line n → findInTree t d line = some (blockOf d n)) ∧
      (¬ Eligible d line n → findInTree t d line =
        ((Node.nodesAll n.children ++ after).find? (Eligible d line ·)).map (blockOf d)) := by
  refine ⟨fun b => ?_, ?_, fun before n after ht hbefore => ?_⟩
  · rw [findInTree_eq, Option.map_eq_some_iff]
    constructor
    · rintro ⟨n, hn, rfl⟩
      obtain ⟨hel, before, after, ht, hbefore⟩ := List.find?_eq_some_iff_append.mp hn
      exact ⟨before, n, after, ht, by simpa using hel, by simpa using hbefore, rfl⟩
    · rintro ⟨before, n, after, ht, hel, hbefore, rfl⟩
      refine ⟨n, List.find?_eq_some_iff_append.mpr ⟨by simpa using hel, before, after, ht, ?_⟩, rfl⟩
      simpa using hbefore
  · rw [findInTree_eq, Option.map_eq_none_iff, List.find?_eq_none]
    simp
  · have hskip : before.find? (Eligible d line ·) = none := by
      rw [List.find?_eq_none]
      simpa using hbefore
    rw [findInTree_eq, ht, List.find?_append, hskip, Option.none_or, n.nodes_eq, List.cons_append,
      List.find?_cons]
    refine ⟨fun h => ?_, fun h => ?_⟩ <;> simp [h]

end TestLocator.Locating
