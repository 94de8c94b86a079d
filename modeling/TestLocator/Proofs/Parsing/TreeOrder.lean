import Mathlib.Data.List.Basic
import TestLocator.Parsing.Concrete

/-!
# The order of concrete nodes

* `Concrete.inductionOnSize` — what passes from the smaller trees to a tree holds of every tree;
* `Concrete.nodes`, `Concrete.nodesAll` — the node and all below it, each before its children;
* `mem_nodesAll_of_child?` — a node in a field is below the node that holds it;
* `Concrete.outline`, `Concrete.outlineAll` — the nodes that are reached through nodes with a name
  that are no extras.
-/

namespace TestLocator.Parsing

namespace Concrete

/-- Induction from the smaller trees to a tree. -/
theorem inductionOnSize {P : Concrete → Prop}
    (h : ∀ n : Concrete, (∀ c, c.size < n.size → P c) → P n) (n : Concrete) : P n :=
  (measure size).wf.induction n h

/-! ## All nodes -/

/-- The node and all below it in order. -/
def nodes (n : Concrete) : List Concrete := (n.preorder 0).map Prod.snd

/-- The nodes of some trees in order, one tree after the other. -/
def nodesAll (cs : List Concrete) : List Concrete := (preorderAll 0 cs).map Prod.snd

mutual

theorem map_snd_preorder (k : Nat) : ∀ n : Concrete, (n.preorder k).map Prod.snd = n.nodes
  | node d cs => by
    rw [nodes, preorder, preorder, List.map_cons, List.map_cons, map_snd_preorderAll,
      map_snd_preorderAll]

/-- The levels do not change the order. -/
theorem map_snd_preorderAll (k : Nat) :
    ∀ cs : List Concrete, (preorderAll k cs).map Prod.snd = nodesAll cs
  | [] => rfl
  | c :: cs => by
    rw [nodesAll, preorderAll, preorderAll, List.map_append, List.map_append, map_snd_preorder,
      map_snd_preorder, map_snd_preorderAll, map_snd_preorderAll]

end

theorem nodes_eq (n : Concrete) : n.nodes = n :: nodesAll n.children := by
  cases n
  rw [nodes, preorder, List.map_cons, map_snd_preorderAll]
  rfl

@[simp] theorem nodesAll_nil : nodesAll [] = [] := rfl

@[simp] theorem nodesAll_cons (c : Concrete) (cs : List Concrete) :
    nodesAll (c :: cs) = c.nodes ++ nodesAll cs := by
  rw [nodesAll, preorderAll, List.map_append, map_snd_preorder, map_snd_preorderAll]

@[simp] theorem nodesAll_append (cs ds : List Concrete) :
    nodesAll (cs ++ ds) = nodesAll cs ++ nodesAll ds := by
  induction cs with
  | nil => simp
  | cons c cs ih => simp [ih]

theorem mem_nodes_self (n : Concrete) : n ∈ n.nodes := by
  rw [nodes_eq]
  exact List.mem_cons_self

theorem mem_nodesAll {m : Concrete} {cs : List Concrete} :
    m ∈ nodesAll cs ↔ ∃ c ∈ cs, m ∈ c.nodes := by
  induction cs with
  | nil => simp
  | cons c cs ih => simp [ih]

theorem nodesAll_children_subset (n : Concrete) : nodesAll n.children ⊆ n.nodes := by
  rw [nodes_eq]
  exact List.subset_cons_self _ _

theorem mem_nodes_of_mem_children {c n : Concrete} (h : c ∈ n.children) : c ∈ n.nodes :=
  nodesAll_children_subset n (mem_nodesAll.mpr ⟨c, h, c.mem_nodes_self⟩)

theorem nodes_subset_of_mem {m n : Concrete} (h : m ∈ n.nodes) : m.nodes ⊆ n.nodes := by
  induction n using inductionOnSize with
  | h n ih =>
    rw [nodes_eq] at h
    rcases List.mem_cons.mp h with rfl | h
    · exact List.Subset.refl _
    · obtain ⟨c, hc, hm⟩ := mem_nodesAll.mp h
      intro x hx
      have hxc := ih c (size_lt_of_mem_children hc) hm hx
      exact nodesAll_children_subset n (mem_nodesAll.mpr ⟨c, hc, hxc⟩)

theorem size_le_of_mem_nodes {m n : Concrete} (h : m ∈ n.nodes) : m.size ≤ n.size := by
  induction n using inductionOnSize with
  | h n ih =>
    rw [nodes_eq] at h
    rcases List.mem_cons.mp h with rfl | h
    · exact Nat.le_refl _
    · obtain ⟨c, hc, hm⟩ := mem_nodesAll.mp h
      have hlt := size_lt_of_mem_children hc
      exact Nat.le_trans (ih c hlt hm) (Nat.le_of_lt hlt)

mutual

theorem mem_nodesAll_of_child? {c : Concrete} {field : String} :
    ∀ {n : Concrete}, n.child? field = some c → c ∈ nodesAll n.children
  | node _ _, h => mem_nodesAll_of_childAmong? (by rwa [child?] at h)

theorem mem_nodesAll_of_childAmong? {c : Concrete} {field : String} :
    ∀ {cs : List Concrete}, childAmong? field cs = some c → c ∈ nodesAll cs
  | [], h => by rw [childAmong?] at h; cases h
  | d :: ds, h => by
    rw [childAmong?] at h
    rw [nodesAll_cons, List.mem_append]
    split at h
    · cases h
      exact .inl (mem_nodes_self _)
    · split at h
      · split at h
        · rename_i e he
          cases h
          exact .inl (nodesAll_children_subset d (mem_nodesAll_of_child? he))
        · exact .inr (mem_nodesAll_of_childAmong? h)
      · exact .inr (mem_nodesAll_of_childAmong? h)

end

theorem nodes_subset_of_child? {c n : Concrete} {field : String} (h : n.child? field = some c) :
    c.nodes ⊆ n.nodes :=
  nodes_subset_of_mem (nodesAll_children_subset n (mem_nodesAll_of_child? h))

/-! ## Nodes reached through parts -/

mutual

/-- The node and all below it that are reached through nodes with a name that are no extras. -/
def outline (n : Concrete) : List Concrete := n :: outlineAll n.parts
termination_by 2 * n.size
decreasing_by
  have := sizeAll_parts_lt n
  omega

/-- The nodes of some trees that are reached in this way. -/
def outlineAll (cs : List Concrete) : List Concrete :=
  match cs with
  | [] => []
  | c :: cs => c.outline ++ outlineAll cs
termination_by 2 * sizeAll cs + 1
decreasing_by
  · rw [sizeAll]; omega
  · have := c.size_pos; rw [sizeAll]; omega

end

theorem outline_eq (n : Concrete) : n.outline = n :: outlineAll n.parts := by rw [outline]

@[simp] theorem outlineAll_nil : outlineAll [] = [] := by rw [outlineAll]

@[simp] theorem outlineAll_cons (c : Concrete) (cs : List Concrete) :
    outlineAll (c :: cs) = c.outline ++ outlineAll cs := by rw [outlineAll]

@[simp] theorem outlineAll_append (cs ds : List Concrete) :
    outlineAll (cs ++ ds) = outlineAll cs ++ outlineAll ds := by
  induction cs with
  | nil => simp
  | cons c cs ih => simp [ih]

theorem outline_subset_outlineAll {c : Concrete} {cs : List Concrete} (h : c ∈ cs) :
    c.outline ⊆ outlineAll cs := by
  induction cs with
  | nil => exact absurd h List.not_mem_nil
  | cons d ds ih =>
    rw [outlineAll_cons]
    rcases List.mem_cons.mp h with rfl | h
    · exact List.subset_append_left _ _
    · exact List.Subset.trans (ih h) (List.subset_append_right _ _)

end Concrete

end TestLocator.Parsing
