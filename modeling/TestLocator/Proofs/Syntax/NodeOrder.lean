import Mathlib.Data.List.Basic
import TestLocator.Syntax.Tree

/-!
# The order of syntax nodes

A node comes before all below it, and what is below one child comes before the next child.

* `Node.inductionOnChildren` — what passes from the children of a node to the node holds of every
  node;
* `Node.nodes`, `Node.nodesAll`, `SyntaxTree.nodes` — the nodes in this order, without their levels;
* `Node.nodes_eq`, `Node.nodesAll_eq`, `SyntaxTree.nodes_eq` — the order, one level at a time.
-/

namespace TestLocator.Syntax

namespace Node

/-- Induction from the children of a node to the node. -/
theorem inductionOnChildren {P : Node → Prop} (h : ∀ n : Node, (∀ c ∈ n.children, P c) → P n)
    (n : Node) : P n := by
  obtain ⟨k, hk⟩ : ∃ k, n.size = k := ⟨_, rfl⟩
  induction k using Nat.strongRecOn generalizing n with
  | _ k ih =>
    refine h n fun c hc => ih c.size ?_ c rfl
    rw [← hk]
    exact size_lt_of_mem_children hc

/-- The node and all below it in order. -/
def nodes (n : Node) : List Node := (n.preorder 0).map Prod.snd

/-- The nodes of some trees in order, one tree after the other. -/
def nodesAll (ns : List Node) : List Node := (preorderAll 0 ns).map Prod.snd

theorem preorderAll_eq_flatMap (k : Nat) (ns : List Node) :
    preorderAll k ns = ns.flatMap (preorder k) := by
  induction ns with
  | nil => rw [preorderAll]; rfl
  | cons c cs ih => rw [preorderAll, ih, List.flatMap_cons]

/-- The levels do not change the order. -/
theorem map_snd_preorder (n : Node) : ∀ k, (n.preorder k).map Prod.snd = n.nodes := by
  have step : ∀ (n : Node) (k : Nat),
      (∀ c ∈ n.children, ∀ k, (c.preorder k).map Prod.snd = c.nodes) →
        (n.preorder k).map Prod.snd = n :: n.children.flatMap nodes := by
    intro n k ih
    rw [preorder, preorderAll_eq_flatMap, List.map_cons, List.map_flatMap]
    congr 1
    exact List.flatMap_congr fun c hc => ih c hc (k + 1)
  induction n using inductionOnChildren with
  | h n ih =>
    intro k
    rw [step n k ih, nodes, step n 0 ih]

theorem nodesAll_eq (ns : List Node) : nodesAll ns = ns.flatMap nodes := by
  rw [nodesAll, preorderAll_eq_flatMap, List.map_flatMap]
  exact List.flatMap_congr fun c _ => map_snd_preorder c 0

theorem nodes_eq (n : Node) : n.nodes = n :: nodesAll n.children := by
  rw [nodes, preorder, List.map_cons, nodesAll, preorderAll_eq_flatMap, preorderAll_eq_flatMap,
    List.map_flatMap, List.map_flatMap]
  congr 1
  refine List.flatMap_congr fun c _ => ?_
  rw [map_snd_preorder, map_snd_preorder]

@[simp] theorem nodesAll_nil : nodesAll [] = [] := by rw [nodesAll_eq]; rfl

@[simp] theorem nodesAll_cons (c : Node) (cs : List Node) :
    nodesAll (c :: cs) = c.nodes ++ nodesAll cs := by
  rw [nodesAll_eq, List.flatMap_cons, ← nodesAll_eq]

theorem mem_nodes_self (n : Node) : n ∈ n.nodes := by
  rw [nodes_eq]
  exact List.mem_cons_self

theorem mem_nodesAll {m : Node} {ns : List Node} : m ∈ nodesAll ns ↔ ∃ c ∈ ns, m ∈ c.nodes := by
  rw [nodesAll_eq, List.mem_flatMap]

theorem nodes_subset_of_mem_children {c n : Node} (h : c ∈ n.children) : c.nodes ⊆ n.nodes := by
  intro m hm
  rw [nodes_eq n]
  exact List.mem_cons_of_mem _ (mem_nodesAll.mpr ⟨c, h, hm⟩)

end Node

/-- The nodes of a tree in order. -/
def SyntaxTree.nodes (t : SyntaxTree) : List Node := t.preorder.map Prod.snd

theorem SyntaxTree.nodes_eq (t : SyntaxTree) : t.nodes = Node.nodesAll t.statements := rfl

end TestLocator.Syntax
