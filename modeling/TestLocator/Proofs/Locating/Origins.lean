import TestLocator.Proofs.Locating.Declarations

/-!
# Where lowered nodes come from

* `exists_of_mem_nodes_lower`, `exists_of_mem_lowerAll` — a lowered node, at whatever level, is the
  lowering of a node of the concrete tree;
* `mem_nodes_lower_of_mem_kept` — the other way round, for the nodes that are kept;
* `declaredRule_of_recognize_lower` — a lowered node declares a test only if the concrete node does.
-/

namespace TestLocator.Locating

open TestLocator.Parsing TestLocator.Syntax

variable {src : Source} {n : Concrete}

/-! ## Nodes -/

theorem exists_of_mem_nodes_lower {m : Node} (h : m ∈ (lower src n).nodes) :
    ∃ c ∈ n.nodes, m = lower src c := by
  induction n using Concrete.inductionOnSize with
  | h n ih =>
    rw [Node.nodes_eq, children_lower] at h
    rcases List.mem_cons.mp h with rfl | h
    · exact ⟨n, n.mem_nodes_self, rfl⟩
    · obtain ⟨_, hmap, hm⟩ := Node.mem_nodesAll.mp h
      obtain ⟨d, hd, rfl⟩ := List.mem_map.mp hmap
      obtain ⟨c, hc, hmc⟩ := ih d (size_lt_of_mem_kept hd) hm
      exact ⟨c, Concrete.nodes_subset_of_mem (mem_nodes_of_mem_kept hd) hc, hmc⟩

theorem exists_of_mem_lowerAll {m : Node} (h : m ∈ Node.nodesAll (lowerAll src n.parts)) :
    ∃ c ∈ n.nodes, m = lower src c := by
  rw [lowerAll_eq_map] at h
  obtain ⟨_, hmap, hm⟩ := Node.mem_nodesAll.mp h
  obtain ⟨d, hd, rfl⟩ := List.mem_map.mp hmap
  obtain ⟨c, hc, hmc⟩ := exists_of_mem_nodes_lower hm
  exact ⟨c, Concrete.nodes_subset_of_mem (mem_nodes_of_mem_parts hd) hc, hmc⟩

theorem mem_nodes_lower_of_mem_kept {c : Concrete} (h : c ∈ kept n) :
    lower src c ∈ (lower src n).nodes := by
  have hchild : lower src c ∈ (lower src n).children := by
    rw [children_lower]
    exact List.mem_map_of_mem h
  exact Node.nodes_subset_of_mem_children hchild (Node.mem_nodes_self _)

/-! ## Declarations -/

theorem declaredRule_of_recognize_lower {rule : Rule} (h : recognize (lower src n) = some rule) :
    declaredRule src n = some rule := by
  by_cases hname : n.kind = "variable_declarator" → (n.child? "value").isSome →
      (n.child? "name").isSome
  · rw [← recognize_lower hname]
    exact h
  · -- without a name a binding is no binding any more
    simp only [Classical.not_imp, Option.not_isSome_iff_eq_none] at hname
    obtain ⟨hkind, _, hnone⟩ := hname
    have hne : ∀ kind, kind ≠ "variable_declarator" → n.kind ≠ kind := by
      rintro kind hkind' rfl
      exact hkind' hkind
    have hother : lower src n = .other (spanOf n) n.kind (lowerAll src n.parts) :=
      lower_other (fun e => absurd e (hne _ (by decide))) (fun e => absurd e (hne _ (by decide)))
        (hne _ (by decide)) (fun _ => hnone)
        (fun hmem => kind_ne_of_mem_functionKinds hmem (by decide) hkind)
    rw [hother] at h
    cases h

end TestLocator.Locating
