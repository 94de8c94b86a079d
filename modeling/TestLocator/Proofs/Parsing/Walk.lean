import Mathlib.Data.List.Basic
import TestLocator.Parsing.Concrete

/-!
# Walks with a cursor

A cursor that goes down where it can, and else on or up and on, passes the nodes of a tree in order.

* `Cursor.behind`, `Cursor.ahead` — the nodes that a walk comes to when it has left the tree below the
  cursor, and all that it has still before it;
* `Cursor.ahead_of_firstChild?`, `Cursor.behind_of_climb` — the two ways to go on;
* **`Cursor.firstDeeperThan_ofRoot`**, `Cursor.firstDeeperThan_eq_none_iff` — a walk finds the first
  node that is too deep, if there is one.
-/

namespace TestLocator.Parsing

theorem Concrete.preorder_eq (depth : Nat) (n : Concrete) :
    n.preorder depth = (depth, n) :: preorderAll (depth + 1) n.children := by
  cases n
  rfl

namespace Cursor

open Concrete

/-- The nodes behind a cursor at some level, outside the tree below it: its later siblings with all
below them, then those of the nodes above it. -/
def behind (depth : Nat) (later : List Concrete) : List (Concrete × List Concrete) →
    List (Nat × Concrete)
  | [] => preorderAll depth later
  | p :: above => preorderAll depth later ++ behind (depth - 1) p.2 above

/-- The nodes that a walk from a cursor at some level comes to. -/
def ahead (c : Cursor) (depth : Nat) : List (Nat × Concrete) :=
  c.node.preorder depth ++ behind depth c.later c.above

theorem behind_cons (depth : Nat) (d : Concrete) (ds : List Concrete)
    (above : List (Concrete × List Concrete)) :
    behind depth (d :: ds) above = ahead ⟨d, ds, above⟩ depth := by
  cases above with
  | nil => simp [behind, ahead, preorderAll]
  | cons p above => simp [behind, ahead, preorderAll]

theorem ahead_of_firstChild? {c d : Cursor} (h : c.firstChild? = some d) (depth : Nat) :
    c.ahead depth = (depth, c.node) :: d.ahead (depth + 1) := by
  unfold firstChild? at h
  split at h
  · cases h
  · rename_i x xs hx
    cases h
    simp [ahead, behind, preorder_eq depth c.node, hx, preorderAll]

theorem ahead_of_no_child {c : Cursor} (h : c.firstChild? = none) (depth : Nat) :
    c.ahead depth = (depth, c.node) :: behind depth c.later c.above := by
  unfold firstChild? at h
  split at h
  · rename_i hx
    simp [ahead, preorder_eq depth c.node, hx, preorderAll]
  · cases h

theorem behind_of_climb (node : Concrete) (later : List Concrete)
    (above : List (Concrete × List Concrete)) (depth : Nat) :
    behind depth later above =
      match climb node later above depth with
      | some (c, k) => c.ahead k
      | none => [] := by
  induction above generalizing node later depth with
  | nil =>
    cases later with
    | nil => rfl
    | cons d ds => exact behind_cons depth d ds []
  | cons p above ih =>
    cases later with
    | nil => exact ih p.1 p.2 (depth - 1)
    | cons d ds => exact behind_cons depth d ds (p :: above)

theorem firstDeeperThan_eq (limit : Nat) (c : Cursor) (depth : Nat) :
    firstDeeperThan limit c depth = ((c.ahead depth).find? (limit < ·.1)).map (·.2) := by
  fun_induction firstDeeperThan limit c depth with
  | case1 c depth hdeep => simp [ahead, preorder_eq, hdeep]
  | case2 c depth hdeep d hchild _ ih =>
    rw [ih, ahead_of_firstChild? hchild, List.find?_cons_of_neg (by simpa using hdeep)]
  | case3 c depth hdeep hchild d k hclimb _ ih =>
    rw [ih, ahead_of_no_child hchild, List.find?_cons_of_neg (by simpa using hdeep),
      behind_of_climb c.node, hclimb]
  | case4 c depth hdeep hchild hclimb =>
    rw [ahead_of_no_child hchild, List.find?_cons_of_neg (by simpa using hdeep),
      behind_of_climb c.node, hclimb]
    rfl

/-- **A walk finds the first node that is too deep.** -/
theorem firstDeeperThan_ofRoot (limit : Nat) (root : Concrete) :
    firstDeeperThan limit (.ofRoot root) 0 = ((root.preorder 0).find? (limit < ·.1)).map (·.2) := by
  rw [firstDeeperThan_eq]
  simp [ahead, behind, ofRoot, preorderAll]

theorem firstDeeperThan_eq_none_iff {limit : Nat} {root : Concrete} :
    firstDeeperThan limit (.ofRoot root) 0 = none ↔ ∀ x ∈ root.preorder 0, x.1 ≤ limit := by
  rw [firstDeeperThan_ofRoot, Option.map_eq_none_iff, List.find?_eq_none]
  simp

end Cursor

end TestLocator.Parsing
