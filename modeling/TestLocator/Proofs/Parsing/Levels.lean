import Mathlib.Data.List.Basic
import TestLocator.Parsing.Shown
import TestLocator.Proofs.Parsing.TreeOrder
import TestLocator.Proofs.Parsing.Walk

/-!
# Levels of concrete nodes

* `preorder_subset_of_mem`, `exists_level_of_mem_nodesAll` — a tree inside another, with its levels
  there;
* `Concrete.inductionOnLevels` — what passes from all that is below a node to the node, on one level
  more, holds of a tree with enough levels;
* `Concrete.cut` — a tree with at most so many levels below its root;
* `cut_eq_self`, `find?_cut` — nothing is cut off a tree that has no more levels, and of one that
  has, the first node that is too deep is left;
* **`cut_ofTree`** — the tree of a text with some levels is the one with more levels, cut.
-/

namespace TestLocator.Parsing

namespace Concrete

variable {c n : Concrete} {depth k : Nat}

theorem mem_preorderAll {x : Nat × Concrete} {cs : List Concrete} :
    x ∈ preorderAll depth cs ↔ ∃ c ∈ cs, x ∈ c.preorder depth := by
  induction cs with
  | nil => simp [preorderAll]
  | cons c cs ih => simp [preorderAll, ih]

theorem mem_preorder_self (depth : Nat) (n : Concrete) : (depth, n) ∈ n.preorder depth := by
  rw [preorder_eq]
  exact List.mem_cons_self

theorem preorder_subset_of_mem_children (h : c ∈ n.children) :
    c.preorder (depth + 1) ⊆ n.preorder depth := by
  intro x hx
  rw [preorder_eq]
  exact List.mem_cons_of_mem _ (mem_preorderAll.mpr ⟨c, h, hx⟩)

theorem preorder_subset_of_mem (h : (k, c) ∈ n.preorder depth) :
    c.preorder k ⊆ n.preorder depth := by
  induction n using inductionOnSize generalizing depth with
  | h n ih =>
    rw [preorder_eq] at h
    rcases List.mem_cons.mp h with heq | h
    · obtain ⟨rfl, rfl⟩ := Prod.mk.inj heq
      exact List.Subset.refl _
    · obtain ⟨d, hd, hc⟩ := mem_preorderAll.mp h
      exact List.Subset.trans (ih d (size_lt_of_mem_children hd) hc)
        (preorder_subset_of_mem_children hd)

/-- No node is on a level above the root. -/
theorem le_level_of_mem_preorder {x : Nat × Concrete} (h : x ∈ n.preorder depth) : depth ≤ x.1 := by
  induction n using inductionOnSize generalizing depth with
  | h n ih =>
    rw [preorder_eq] at h
    rcases List.mem_cons.mp h with rfl | h
    · exact Nat.le_refl _
    · obtain ⟨d, hd, hx⟩ := mem_preorderAll.mp h
      exact Nat.le_of_succ_le (ih d (size_lt_of_mem_children hd) hx)

theorem exists_level_of_mem_nodesAll (depth : Nat) (h : c ∈ nodesAll n.children) :
    ∃ k, depth < k ∧ (k, c) ∈ n.preorder depth := by
  rw [← map_snd_preorderAll (depth + 1)] at h
  obtain ⟨⟨k, _⟩, hmem, rfl⟩ := List.mem_map.mp h
  obtain ⟨d, hd, hk⟩ := mem_preorderAll.mp hmem
  exact ⟨k, le_level_of_mem_preorder hk, preorder_subset_of_mem_children hd hk⟩

/-- Induction from all that is below a node to the node, over a tree with enough levels. -/
theorem inductionOnLevels {P : Nat → Concrete → Prop}
    (step : ∀ k n, (∀ c ∈ nodesAll n.children, P k c) → P (k + 1) n) {k depth : Nat} {n : Concrete}
    (h : ∀ x ∈ n.preorder depth, x.1 < depth + k) : P k n := by
  induction k generalizing n depth with
  | zero => exact absurd (h _ (mem_preorder_self depth n)) (Nat.lt_irrefl depth)
  | succ k ih =>
    refine step k n fun c hc => ?_
    obtain ⟨j, hj, hmem⟩ := exists_level_of_mem_nodesAll depth hc
    have hlevels : ∀ x ∈ c.preorder j, x.1 < j + k := by
      intro x hx
      have hlt := h x (preorder_subset_of_mem hmem hx)
      omega
    exact ih hlevels

/-! ## Cutting -/

/-- A tree with at most so many levels below its root. -/
def cut : Nat → Concrete → Concrete
  | 0, n => .node n.data []
  | levels + 1, n => .node n.data (n.children.map (cut levels))

@[simp] theorem data_cut (levels : Nat) (n : Concrete) : (n.cut levels).data = n.data := by
  cases levels <;> rfl

theorem node_data_children (n : Concrete) : .node n.data n.children = n := by
  cases n
  rfl

theorem cut_eq_self {levels : Nat} (h : ∀ x ∈ n.preorder depth, x.1 ≤ depth + levels) :
    n.cut levels = n := by
  have hbelow : ∀ c ∈ n.children, ∀ x ∈ c.preorder (depth + 1), x.1 ≤ depth + levels :=
    fun c hc x hx => h x (preorder_subset_of_mem_children hc hx)
  induction levels generalizing depth n with
  | zero =>
    have hnil : n.children = [] := by
      refine List.eq_nil_iff_forall_not_mem.mpr fun c hc => ?_
      exact absurd (hbelow c hc _ (mem_preorder_self _ c)) (Nat.not_succ_le_self depth)
    rw [cut, ← hnil, node_data_children]
  | succ levels ih =>
    have hsame : n.children.map (cut levels) = n.children.map id := by
      refine List.map_congr_left fun c hc => ?_
      have hle : ∀ x ∈ c.preorder (depth + 1), x.1 ≤ depth + 1 + levels := by
        intro x hx
        have hx := hbelow c hc x hx
        omega
      exact ih hle fun d hd x hx => hle x (preorder_subset_of_mem_children hd hx)
    rw [cut, hsame, List.map_id, node_data_children]

theorem find?_preorder_of_lt {limit : Nat} (h : limit < depth) (n : Concrete) :
    (n.preorder depth).find? (limit < ·.1) = some (depth, n) := by
  rw [preorder_eq, List.find?_cons_of_pos (by simpa using h)]

theorem find?_preorder_of_le {limit : Nat} (h : depth ≤ limit) (n : Concrete) :
    (n.preorder depth).find? (limit < ·.1) =
      (preorderAll (depth + 1) n.children).find? (limit < ·.1) := by
  rw [preorder_eq, List.find?_cons_of_neg (by simpa using h)]

theorem find?_preorderAll_map {limit : Nat} {f : Concrete → Concrete} {cs : List Concrete}
    (h : ∀ c ∈ cs, (((f c).preorder depth).find? (limit < ·.1)).map (·.2.data) =
      ((c.preorder depth).find? (limit < ·.1)).map (·.2.data)) :
    ((preorderAll depth (cs.map f)).find? (limit < ·.1)).map (·.2.data) =
      ((preorderAll depth cs).find? (limit < ·.1)).map (·.2.data) := by
  induction cs with
  | nil => rfl
  | cons c cs ih =>
    have hrest := ih fun d hd => h d (List.mem_cons_of_mem _ hd)
    rw [List.map_cons, preorderAll, preorderAll, List.find?_append, List.find?_append,
      Option.map_or, Option.map_or, h c List.mem_cons_self, hrest]

theorem find?_cut {limit levels : Nat} (h : limit < depth + levels) (n : Concrete) :
    (((n.cut levels).preorder depth).find? (limit < ·.1)).map (·.2.data) =
      ((n.preorder depth).find? (limit < ·.1)).map (·.2.data) := by
  induction levels generalizing depth n with
  | zero =>
    have hdepth : limit < depth := h
    simp [find?_preorder_of_lt hdepth]
  | succ levels ih =>
    by_cases hdepth : limit < depth
    · simp [find?_preorder_of_lt hdepth]
    · have hle := Nat.not_lt.mp hdepth
      rw [find?_preorder_of_le hle, find?_preorder_of_le hle]
      exact find?_preorderAll_map fun c _ => ih (by omega) c

end Concrete

/-! ## Trees of texts -/

theorem Piece.data_concrete (tables : Tables) (src : Source) (levels : Nat) (p : Piece) (i : Nat) :
    (p.concrete tables src levels i).data = p.data tables src i := by
  cases levels <;> rfl

theorem Piece.cut_concrete (tables : Tables) (src : Source) (more : Nat) :
    ∀ (levels : Nat) (p : Piece) (i : Nat),
      (p.concrete tables src (levels + more) i).cut levels = p.concrete tables src levels i
  | 0, p, i => by rw [Concrete.cut, data_concrete, concrete]
  | levels + 1, p, i => by
    rw [Nat.add_right_comm, concrete, concrete, Concrete.cut, Concrete.children, Concrete.data,
      List.map_map]
    congr 1
    exact List.map_congr_left fun q _ => cut_concrete tables src more levels q.1 q.2

/-- **A tree with some levels** is the one with more levels, cut. -/
theorem Concrete.cut_ofTree {tables : Tables} {src : Source} {levels more : Nat} (h : levels ≤ more)
    (t : Tree) : (ofTree tables src more t).cut levels = ofTree tables src levels t := by
  obtain ⟨k, rfl⟩ := Nat.exists_eq_add_of_le h
  exact Piece.cut_concrete tables src k levels _ 0

end TestLocator.Parsing
