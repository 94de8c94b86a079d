import TestLocator.Proofs.Locating.FirstMatch
import TestLocator.Proofs.Syntax.Nesting

/-!
# The lines of one block

In a lowered tree a node is nested in every node before it, or begins where that ends at the
earliest. A search for another line of a block thus meets nothing before the block that the first
search did not meet, unless the line is the one where the block begins.

* `EnclosesOrPrecedes`, `pairwise_nodesAll` — the lines of two nodes of a tree;
* `Eligible.of_contains`, `find?_eligible_eq` — the first match for another line of its block;
* **`findInTree_later_line`** — the searches for the lines of a block.
-/

namespace TestLocator.Locating

open TestLocator.Parsing TestLocator.Syntax

/-! ## Two nodes of a tree -/

/-- The lines of a node and those of a later node. -/
def EnclosesOrPrecedes (m n : Node) : Prop := m.span.Encloses n.span ∨ m.span.Precedes n.span

variable {n : Node} {ns : List Node}

theorem encloses_of_mem_nodes (h : ∀ m ∈ n.nodes, Framed m) {m : Node} (hm : m ∈ n.nodes) :
    n.span.Encloses m.span := by
  induction n using Node.inductionOnChildren with
  | h n ih =>
    rw [Node.nodes_eq] at h hm
    rcases List.mem_cons.mp hm with rfl | hm
    · exact .refl _
    · obtain ⟨c, hc, hm⟩ := Node.mem_nodesAll.mp hm
      have hcn : ∀ x ∈ c.nodes, Framed x := fun x hx =>
        h x (List.mem_cons_of_mem _ (Node.mem_nodesAll.mpr ⟨c, hc, hx⟩))
      exact ((h n List.mem_cons_self).encloses c hc).trans (ih c hc hcn hm)

theorem pairwise_nodesAll_of_pairwise_nodes (h : ∀ m ∈ Node.nodesAll ns, Framed m)
    (hns : ns.Pairwise fun c e => c.span.Precedes e.span)
    (hnodes : ∀ c ∈ ns, c.nodes.Pairwise EnclosesOrPrecedes) :
    (Node.nodesAll ns).Pairwise EnclosesOrPrecedes := by
  have hframed : ∀ c ∈ ns, ∀ m ∈ c.nodes, Framed m := fun c hc m hm =>
    h m (Node.mem_nodesAll.mpr ⟨c, hc, hm⟩)
  rw [Node.nodesAll_eq, List.pairwise_flatMap]
  refine ⟨hnodes, hns.imp_of_mem fun {c e} hc he hce x hx y hy => .inr ?_⟩
  calc x.span.endLine
    _ ≤ c.span.endLine := (encloses_of_mem_nodes (hframed c hc) hx).2
    _ ≤ e.span.startLine := hce
    _ ≤ y.span.startLine := (encloses_of_mem_nodes (hframed e he) hy).1

theorem pairwise_nodes (h : ∀ m ∈ n.nodes, Framed m) : n.nodes.Pairwise EnclosesOrPrecedes := by
  induction n using Node.inductionOnChildren with
  | h n ih =>
    have hencloses : ∀ m ∈ n.nodes, n.span.Encloses m.span := fun _ hm => encloses_of_mem_nodes h hm
    rw [Node.nodes_eq] at h hencloses ⊢
    have hbelow : ∀ m ∈ Node.nodesAll n.children, Framed m := fun m hm =>
      h m (List.mem_cons_of_mem _ hm)
    have hchildren : ∀ c ∈ n.children, c.nodes.Pairwise EnclosesOrPrecedes := fun c hc =>
      ih c hc fun m hm => hbelow m (Node.mem_nodesAll.mpr ⟨c, hc, hm⟩)
    refine List.pairwise_cons.mpr ⟨fun m hm => .inl (hencloses m (List.mem_cons_of_mem _ hm)), ?_⟩
    exact pairwise_nodesAll_of_pairwise_nodes hbelow (h n List.mem_cons_self).inOrder hchildren

/-- **Of two nodes of some trees**, the earlier one encloses the later one or precedes it. -/
theorem pairwise_nodesAll (h : ∀ m ∈ Node.nodesAll ns, Framed m)
    (hns : ns.Pairwise fun c e => c.span.Precedes e.span) :
    (Node.nodesAll ns).Pairwise EnclosesOrPrecedes :=
  pairwise_nodesAll_of_pairwise_nodes h hns fun c hc =>
    pairwise_nodes fun m hm => h m (Node.mem_nodesAll.mpr ⟨c, hc, hm⟩)

/-! ## Two lines of a block -/

variable {d : Document} {line line' : Nat}

theorem Eligible.of_contains (h : Eligible d line n) (hline : n.span.Contains line') :
    Eligible d line' n :=
  { h with encloses := hline }

theorem find?_eligible_eq (h : ns.Pairwise EnclosesOrPrecedes)
    (hn : ns.find? (Eligible d line ·) = some n) (hfirst : n.span.startLine < line')
    (hlast : line' ≤ n.span.endLine) : ns.find? (Eligible d line' ·) = some n := by
  obtain ⟨hel, before, after, rfl, hbefore⟩ := List.find?_eq_some_iff_append.mp hn
  have hel : Eligible d line n := by simpa using hel
  have hbefore : ∀ m ∈ before, ¬ Eligible d line m := by simpa using hbefore
  have hrel : ∀ m ∈ before, EnclosesOrPrecedes m n := fun m hm =>
    (List.pairwise_append.mp h).2.2 m hm n List.mem_cons_self
  have hnot : ∀ m ∈ before, ¬ Eligible d line' m := by
    intro m hm hel'
    rcases hrel m hm with hencloses | hprecedes
    · exact hbefore m hm (hel'.of_contains (hencloses.contains hel.encloses))
    · -- here the line where the block begins would be an exception
      exact absurd (Nat.le_trans hel'.encloses.2 hprecedes) (Nat.not_le.mpr hfirst)
  have heln : Eligible d line' n := hel.of_contains ⟨Nat.le_of_lt hfirst, hlast⟩
  refine List.find?_eq_some_iff_append.mpr ⟨by simpa using heln, before, after, rfl, ?_⟩
  simpa using hnot

/-- **Every later line of a block finds the block.** -/
theorem findInTree_later_line (language : Language) (src : Source) (root : Concrete)
    (h : ∀ m ∈ root.nodes, Orderly m) (d : Document) (line line' : Nat) (b : TestBlock)
    (hfound : findInTree ⟨language, lowerAll src root.parts⟩ d line = some b)
    (hfirst : b.startLine < line') (hlast : line' ≤ b.endLine) :
    findInTree ⟨language, lowerAll src root.parts⟩ d line' = some b := by
  rw [findInTree_eq] at hfound ⊢
  obtain ⟨n, hn, rfl⟩ := Option.map_eq_some_iff.mp hfound
  have hpairwise : (Node.nodesAll (lowerAll src root.parts)).Pairwise EnclosesOrPrecedes :=
    pairwise_nodesAll (framed_lowerAll src h) (lowerAll_pairwise src h)
  rw [SyntaxTree.nodes_eq] at hn ⊢
  rw [find?_eligible_eq hpairwise hn hfirst hlast, Option.map_some]

/-- Of the sample, both lines of the test call find it. -/
theorem findInTree_later_line_sample :
    (∀ m ∈ sampleTree.nodes, Orderly m) ∧
      findInTree ⟨.javaScript, lowerAll sampleSource sampleTree.parts⟩
        (.ofText ⟨"a.test.js"⟩ sampleSource.text "") 2 = some ⟨"it('a', y =>\n  f);", 2, 3⟩ ∧
      findInTree ⟨.javaScript, lowerAll sampleSource sampleTree.parts⟩
        (.ofText ⟨"a.test.js"⟩ sampleSource.text "") 3 = some ⟨"it('a', y =>\n  f);", 2, 3⟩ := by
  have horderly : ∀ m ∈ sampleTree.nodes, Orderly m := by decide +kernel
  have hfound : findInTree ⟨.javaScript, lowerAll sampleSource sampleTree.parts⟩
      (.ofText ⟨"a.test.js"⟩ sampleSource.text "") 2 = some ⟨"it('a', y =>\n  f);", 2, 3⟩ := by
    decide +kernel
  refine ⟨horderly, hfound, ?_⟩
  exact findInTree_later_line .javaScript sampleSource sampleTree horderly _ 2 3 _ hfound
    (by decide) (by decide)

end TestLocator.Locating
