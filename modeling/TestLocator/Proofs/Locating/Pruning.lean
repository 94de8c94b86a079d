import TestLocator.Proofs.Locating.FirstMatch
import TestLocator.Proofs.Locating.Origins
import TestLocator.Proofs.Syntax.Nesting

/-!
# Searching only where the line is

The search goes through all children of a node, whether they enclose the line or not. Where the
lines of a tree are nested it might as well pass over those that do not.

* `prunedBelow`, `prunedAmong` — the search that goes down only into nodes that enclose the line;
* `findBelow_of_not_contains` — elsewhere there is nothing to find;
* `prunedAmong_eq`, `prunedBelow_eq` — so both searches find the same;
* **`findBelow_pruned`** — the searches in a lowered tree.
-/

namespace TestLocator.Locating

open TestLocator.Parsing TestLocator.Syntax

/-! ## The other search -/

mutual

/-- The first test in a node that encloses a line, where only children that enclose the line are
searched. -/
def prunedBelow (d : Document) (line : Nat) (n : Node) : Option TestBlock :=
  match ownBlock d line n with
  | some b => some b
  | none => prunedAmong d line n.children
termination_by 2 * n.size
decreasing_by rw [n.size_eq]; omega

/-- The first test in those of some nodes that enclose a line. -/
def prunedAmong (d : Document) (line : Nat) (ns : List Node) : Option TestBlock :=
  match ns with
  | [] => none
  | c :: cs =>
    if c.span.Contains line then
      match prunedBelow d line c with
      | some b => some b
      | none => prunedAmong d line cs
    else prunedAmong d line cs
termination_by 2 * Node.sizeAll ns + 1
decreasing_by
  · rw [Node.sizeAll]; omega
  all_goals have := c.size_pos; rw [Node.sizeAll]; omega

end

variable {d : Document} {line : Nat} {n : Node} {ns : List Node}

/-! ## Nested lines -/

/-- A node, and each node below it, encloses all that is below that. -/
def SpansNested (n : Node) : Prop := ∀ m ∈ n.nodes, ∀ x ∈ m.nodes, m.span.Encloses x.span

theorem SpansNested.encloses (h : SpansNested n) : ∀ x ∈ n.nodes, n.span.Encloses x.span :=
  h n n.mem_nodes_self

theorem SpansNested.child {c : Node} (h : SpansNested n) (hc : c ∈ n.children) : SpansNested c :=
  fun m hm => h m (Node.nodes_subset_of_mem_children hc hm)

/-- **Where a node does not enclose the line**, there is nothing to find. -/
theorem findBelow_of_not_contains (h : SpansNested n) (hline : ¬ n.span.Contains line) :
    findBelow d line n = none := by
  rw [findBelow_eq, Option.map_eq_none_iff, List.find?_eq_none]
  intro x hx hel
  have hel : Eligible d line x := by simpa using hel
  exact hline ((h.encloses x hx).contains hel.encloses)

/-! ## Both searches -/

theorem prunedAmong_eq (hns : ∀ c ∈ ns, SpansNested c)
    (h : ∀ c ∈ ns, prunedBelow d line c = findBelow d line c) :
    prunedAmong d line ns = findAmong d line ns := by
  induction ns with
  | nil => rw [prunedAmong, findAmong]
  | cons c cs ih =>
    have hrest : prunedAmong d line cs = findAmong d line cs :=
      ih (fun e he => hns e (List.mem_cons_of_mem _ he)) fun e he => h e (List.mem_cons_of_mem _ he)
    have hc := h c List.mem_cons_self
    by_cases hline : c.span.Contains line
    · cases hfound : findBelow d line c <;>
        simp only [prunedAmong, findAmong, if_pos hline, hc, hfound, hrest]
    · have hnone : findBelow d line c = none :=
        findBelow_of_not_contains (hns c List.mem_cons_self) hline
      simp only [prunedAmong, findAmong, if_neg hline, hnone, hrest]

theorem prunedBelow_eq (h : SpansNested n) : prunedBelow d line n = findBelow d line n := by
  induction n using Node.inductionOnChildren with
  | h n ih =>
    have hchildren : prunedAmong d line n.children = findAmong d line n.children :=
      prunedAmong_eq (fun _ hc => h.child hc) fun c hc => ih c hc (h.child hc)
    cases hown : ownBlock d line n <;> simp only [prunedBelow, findBelow, hown, hchildren]

/-! ## Lowered trees -/

variable {src : Source} {root : Concrete}

theorem spansNested_lower {c : Concrete} (h : ∀ m ∈ c.nodes, Nested m) :
    SpansNested (lower src c) := by
  intro m hm x hx
  obtain ⟨e, he, rfl⟩ := exists_of_mem_nodes_lower hm
  obtain ⟨f, hf, rfl⟩ := exists_of_mem_nodes_lower hx
  have hsub : e.nodes ⊆ c.nodes := Concrete.nodes_subset_of_mem he
  rw [span_lower, span_lower]
  exact encloses_spanOf (h f (hsub hf)).start_le_stop
    (rowsEnclose_of_mem_nodes (fun m hm => h m (hsub hm)) hf)

theorem spansNested_of_mem_lowerAll (h : ∀ m ∈ root.nodes, Nested m) {m : Node}
    (hm : m ∈ Node.nodesAll (lowerAll src root.parts)) : SpansNested m := by
  obtain ⟨c, hc, rfl⟩ := exists_of_mem_lowerAll hm
  exact spansNested_lower fun e he => h e (Concrete.nodes_subset_of_mem hc he)

/-- **The search may be pruned** to the nodes that enclose the line. -/
theorem findBelow_pruned (src : Source) (root : Concrete) (h : ∀ m ∈ root.nodes, Nested m)
    (d : Document) (line : Nat) :
    (∀ m ∈ Node.nodesAll (lowerAll src root.parts),
      (¬ m.span.Contains line → findBelow d line m = none) ∧
        prunedBelow d line m = findBelow d line m) ∧
    ∀ language, prunedAmong d line (lowerAll src root.parts) =
      findInTree ⟨language, lowerAll src root.parts⟩ d line := by
  have hnested : ∀ m ∈ Node.nodesAll (lowerAll src root.parts), SpansNested m := fun _ =>
    spansNested_of_mem_lowerAll h
  have hstatements : ∀ s ∈ lowerAll src root.parts, SpansNested s := fun s hs =>
    hnested s (Node.mem_nodesAll.mpr ⟨s, hs, s.mem_nodes_self⟩)
  refine ⟨fun m hm => ⟨findBelow_of_not_contains (hnested m hm), prunedBelow_eq (hnested m hm)⟩,
    fun language => ?_⟩
  exact prunedAmong_eq hstatements fun s hs => prunedBelow_eq (hstatements s hs)

/-- For the last line, the statement that binds the function may be passed over. -/
theorem findBelow_pruned_sample :
    (∀ m ∈ sampleTree.nodes, Nested m) ∧
      let d := Document.ofText ⟨"a.test.js"⟩ sampleSource.text ""
      findBelow d 3 (lower sampleSource sampleBinding) = none ∧
        prunedAmong d 3 (lowerAll sampleSource sampleTree.parts) =
          some ⟨"it('a', y =>\n  f);", 2, 3⟩ := by
  have hnested : ∀ m ∈ sampleTree.nodes, Nested m := by decide +kernel
  have hfound : findInTree ⟨.javaScript, lowerAll sampleSource sampleTree.parts⟩
      (.ofText ⟨"a.test.js"⟩ sampleSource.text "") 3 = some ⟨"it('a', y =>\n  f);", 2, 3⟩ := by
    decide +kernel
  obtain ⟨hnodes, htree⟩ := findBelow_pruned sampleSource sampleTree hnested
    (.ofText ⟨"a.test.js"⟩ sampleSource.text "") 3
  have hmem : lower sampleSource sampleBinding ∈ lowerAll sampleSource sampleTree.parts := by
    rw [lowerAll_eq_map]
    exact List.mem_map_of_mem (List.mem_cons_self)
  have hline : ¬ (lower sampleSource sampleBinding).span.Contains 3 := by
    rw [span_lower]
    decide
  exact ⟨hnested, (hnodes _ (Node.mem_nodesAll.mpr ⟨_, hmem, Node.mem_nodes_self _⟩)).1 hline,
    (htree .javaScript).trans hfound⟩

end TestLocator.Locating
