import Mathlib.Algebra.GroupWithZero.Nat
import Mathlib.Data.List.Basic
import TestLocator.Parsing.Shown
import TestLocator.Proofs.Parsing.TreeOrder

/-!
# Places in a source text

A source text holds what stands before each character as sums that are made once. Here they are
what they stand for.

* `toList_sumsBefore` — sums of numbers from the front;
* `Source.slice_ofString`, `Source.rowOf_ofString` — a piece of a text, and the line of a place;
* `exists_point_of_mem_ofTree` — where the nodes of a tree start and end.
-/

namespace TestLocator.Parsing

/-! ## Sums -/

theorem toList_foldl_sums (ns : List Nat) : ∀ (sums : Array Nat) (total : Nat),
    (ns.foldl (fun (sums, total) n => (sums.push (total + n), total + n)) (sums, total)).1.toList =
      sums.toList ++ (List.range ns.length).map fun k => total + (ns.take (k + 1)).sum := by
  induction ns with
  | nil => simp
  | cons n ns ih =>
    intro sums total
    rw [List.foldl_cons, ih, Array.toList_push, List.append_assoc, List.singleton_append,
      List.length_cons, List.range_succ_eq_map, List.map_cons, List.map_map]
    simp [Nat.add_assoc, Function.comp_def]

theorem toList_sumsBefore (ns : List Nat) : (Source.sumsBefore ns).toList =
    (List.range (ns.length + 1)).map fun k => (ns.take k).sum := by
  rw [Source.sumsBefore, toList_foldl_sums, List.range_succ_eq_map, List.map_cons, List.map_map]
  simp [Function.comp_def]

theorem getD_sumsBefore {ns : List Nat} {i : Nat} (h : i ≤ ns.length) :
    (Source.sumsBefore ns).getD i 0 = (ns.take i).sum := by
  have hi : i < ns.length + 1 := Nat.lt_succ_of_le h
  rw [Array.getD_eq_getD_getElem?, ← Array.getElem?_toList, toList_sumsBefore]
  simp [hi]

/-! ## Pieces and lines of a text -/

namespace Source

theorem sum_map_lineFeeds (cs : List Char) :
    (cs.map fun c => if c = '\n' then 1 else 0).sum = cs.count '\n' := by
  induction cs with
  | nil => rfl
  | cons c cs ih =>
    rw [List.map_cons, List.sum_cons, ih, List.count_cons, Nat.add_comm]
    simp

/-- The line of a place has the number of the line feeds before the place. -/
theorem rowOf_ofString {s : String} {i : Nat} (h : i ≤ s.toList.length) :
    (ofString s).rowOf i = (s.toList.take i).count '\n' := by
  have hlen : i ≤ (s.toList.map fun c => if c = '\n' then 1 else 0).length := by
    rwa [List.length_map]
  change (sumsBefore _).getD i 0 = _
  rw [getD_sumsBefore hlen, ← List.map_take, sum_map_lineFeeds]

/-- A piece of a text is its characters from a place to before another. -/
theorem slice_ofString (s : String) (i j : Nat) :
    ((ofString s).slice i j).toList = (s.toList.drop i).take (j - i) := by
  have hcodes : (ofString s).codes.toList = s.toList.map Char.toNat := rfl
  rw [slice, String.toList_ofList, Array.toList_extract, hcodes, List.extract_eq_take_drop,
    ← List.map_drop, ← List.map_take, List.map_map]
  simp [Function.comp_def]

end Source

/-! ## Places of nodes -/

theorem mem_nodes_concrete {tables : Tables} {src : Source} {n : Concrete} :
    ∀ {levels : Nat} {p : Piece} {i : Nat}, n ∈ (p.concrete tables src levels i).nodes →
      ∃ (q : Piece) (j : Nat), n.data = q.data tables src j
  | 0, p, i, h => by
    rw [Piece.concrete, Concrete.nodes_eq] at h
    obtain rfl : n = .node (p.data tables src i) [] := by simpa [Concrete.children] using h
    exact ⟨p, i, rfl⟩
  | levels + 1, p, i, h => by
    rw [Piece.concrete, Concrete.nodes_eq] at h
    rcases List.mem_cons.mp h with rfl | h
    · exact ⟨p, i, rfl⟩
    · obtain ⟨c, hc, hn⟩ := Concrete.mem_nodesAll.mp h
      obtain ⟨⟨q, j⟩, _, rfl⟩ := List.mem_map.mp hc
      exact mem_nodes_concrete hn

theorem exists_point_of_mem_ofTree {tables : Tables} {src : Source} {levels : Nat} {t : Tree}
    {n : Concrete} (h : n ∈ (Concrete.ofTree tables src levels t).nodes) :
    (∃ i, n.data.start = src.point i) ∧ ∃ j, n.data.stop = src.point j := by
  obtain ⟨q, j, hdata⟩ := mem_nodes_concrete h
  rw [hdata]
  exact ⟨⟨_, rfl⟩, ⟨_, rfl⟩⟩

end TestLocator.Parsing
