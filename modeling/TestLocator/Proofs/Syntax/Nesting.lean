import Mathlib.Data.List.Basic
import Mathlib.Data.List.Chain
import TestLocator.Proofs.Syntax.Acceptance
import TestLocator.Proofs.Syntax.Kept
import TestLocator.Proofs.Syntax.NodeOrder

/-!
# Nesting and order of lines

Every node of a concrete tree stands between the lines of its parent and after its earlier siblings.
Lowering takes nodes out of several levels and loses none of this.

* `LineSpan.Encloses`, `LineSpan.Precedes` — how the lines of two nodes may lie;
* `RowsEnclose`, `RowsPrecede`, `Nested`, `Orderly` — the rows of a concrete node and its children,
  as a parser gives them;
* `encloses_of_mem_kept`, `kept_pairwise` — what lowering keeps is nested and in order;
* `Framed`, **`framed_lower`** — the lines of a lowered node and its children;
* **`lowered_framed`** — the lines of a whole tree, from its statements down.
-/

namespace TestLocator.Syntax

open TestLocator.Parsing

/-! ## Two spans -/

namespace LineSpan

/-- All lines of `t` are lines of `s`. -/
def Encloses (s t : LineSpan) : Prop := s.startLine ≤ t.startLine ∧ t.endLine ≤ s.endLine

/-- `s` ends before `t` begins, or on the same line. -/
def Precedes (s t : LineSpan) : Prop := s.endLine ≤ t.startLine

theorem Encloses.refl (s : LineSpan) : s.Encloses s := ⟨Nat.le_refl _, Nat.le_refl _⟩

theorem Encloses.trans {s t u : LineSpan} (h : s.Encloses t) (h' : t.Encloses u) : s.Encloses u :=
  ⟨Nat.le_trans h.1 h'.1, Nat.le_trans h'.2 h.2⟩

theorem Encloses.contains {s t : LineSpan} {line : Nat} (h : s.Encloses t)
    (hline : t.Contains line) : s.Contains line :=
  ⟨Nat.le_trans h.1 hline.1, Nat.le_trans hline.2 h.2⟩

end LineSpan

/-! ## Rows of concrete nodes -/

/-- The rows of `c` lie in the rows of `n`. -/
def RowsEnclose (n c : Concrete) : Prop :=
  n.data.start.row ≤ c.data.start.row ∧ c.data.stop.row ≤ n.data.stop.row

/-- `c` ends on a row before the one where `e` begins, or on the same row. -/
def RowsPrecede (c e : Concrete) : Prop := c.data.stop.row ≤ e.data.start.row

instance : DecidableRel RowsEnclose := fun _ _ => by unfold RowsEnclose; infer_instance

instance : DecidableRel RowsPrecede := fun _ _ => by unfold RowsPrecede; infer_instance

/-- The rows of a node are a range, and those of its children lie in it. -/
structure Nested (n : Concrete) : Prop where
  start_le_stop : n.data.start.row ≤ n.data.stop.row
  within : ∀ c ∈ n.children, RowsEnclose n c

/-- Besides, no child begins on an earlier row than the one where its elder sibling ends, and so it
is with the fields of calls and bindings. -/
structure Orderly (n : Concrete) : Prop extends Nested n where
  siblings : n.children.IsChain RowsPrecede
  call : n.kind = "call_expression" → ∀ callee ∈ n.child? "function",
    ∀ arguments ∈ n.child? "arguments", RowsPrecede callee arguments
  declarator : n.kind = "variable_declarator" → ∀ name ∈ n.child? "name",
    ∀ value ∈ n.child? "value", RowsPrecede name value

instance : DecidablePred Nested := fun n =>
  decidable_of_iff (n.data.start.row ≤ n.data.stop.row ∧ ∀ c ∈ n.children, RowsEnclose n c)
    ⟨fun h => ⟨h.1, h.2⟩, fun h => ⟨h.1, h.2⟩⟩

instance : DecidablePred Orderly := fun n =>
  decidable_of_iff (Nested n ∧ n.children.IsChain RowsPrecede ∧
    (n.kind = "call_expression" → ∀ callee ∈ n.child? "function",
      ∀ arguments ∈ n.child? "arguments", RowsPrecede callee arguments) ∧
    (n.kind = "variable_declarator" → ∀ name ∈ n.child? "name",
      ∀ value ∈ n.child? "value", RowsPrecede name value))
    ⟨fun h => ⟨h.1, h.2.1, h.2.2.1, h.2.2.2⟩, fun h => ⟨h.1, h.2, h.3, h.4⟩⟩

variable {src : Source} {n c e : Concrete}

theorem rowsEnclose_of_mem_nodes (h : ∀ m ∈ n.nodes, Nested m) (hc : c ∈ n.nodes) :
    RowsEnclose n c := by
  induction n using Concrete.inductionOnSize with
  | h n ih =>
    rw [Concrete.nodes_eq] at hc
    rcases List.mem_cons.mp hc with rfl | hc
    · exact ⟨Nat.le_refl _, Nat.le_refl _⟩
    · obtain ⟨d, hd, hcd⟩ := Concrete.mem_nodesAll.mp hc
      have hdn : d.nodes ⊆ n.nodes :=
        Concrete.nodes_subset_of_mem (Concrete.mem_nodes_of_mem_children hd)
      have hout := (h n n.mem_nodes_self).within d hd
      have hin := ih d (Concrete.size_lt_of_mem_children hd) (fun m hm => h m (hdn hm)) hcd
      exact ⟨Nat.le_trans hout.1 hin.1, Nat.le_trans hin.2 hout.2⟩

theorem pairwise_of_isChain {cs : List Concrete}
    (hrows : ∀ c ∈ cs, c.data.start.row ≤ c.data.stop.row) (h : cs.IsChain RowsPrecede) :
    cs.Pairwise RowsPrecede := by
  -- alone it does not pass from one sibling to the next but one
  let R (c e : Concrete) : Prop := RowsPrecede c e ∧ e.data.start.row ≤ e.data.stop.row
  have : Trans R R R :=
    ⟨fun hab hbc => ⟨Nat.le_trans hab.1 (Nat.le_trans hab.2 hbc.1), hbc.2⟩⟩
  have hR : cs.IsChain R := h.imp_of_mem_imp fun _ e _ he hce => ⟨hce, hrows e he⟩
  exact hR.pairwise.imp fun h => h.1

theorem parts_pairwise (h : ∀ m ∈ n.nodes, Orderly m) : n.parts.Pairwise RowsPrecede := by
  have hrows : ∀ c ∈ n.children, c.data.start.row ≤ c.data.stop.row := fun c hc =>
    (h c (Concrete.mem_nodes_of_mem_children hc)).start_le_stop
  have hchildren := pairwise_of_isChain hrows (h n n.mem_nodes_self).siblings
  exact hchildren.sublist List.filter_sublist

/-! ## Lines of what is kept -/

theorem encloses_spanOf (hrows : c.data.start.row ≤ c.data.stop.row) (h : RowsEnclose n c) :
    (spanOf n).Encloses (spanOf c) := by
  unfold RowsEnclose at h
  unfold LineSpan.Encloses spanOf
  dsimp only
  omega

theorem precedes_spanOf (hrows : c.data.start.row ≤ c.data.stop.row) (h : RowsPrecede c e) :
    (spanOf c).Precedes (spanOf e) := by
  unfold RowsPrecede at h
  unfold LineSpan.Precedes spanOf
  dsimp only
  omega

theorem encloses_of_mem_kept (h : ∀ m ∈ n.nodes, Nested m) (hc : c ∈ kept n) :
    (spanOf n).Encloses (spanOf c) :=
  encloses_spanOf (h c (mem_nodes_of_mem_kept hc)).start_le_stop
    (rowsEnclose_of_mem_nodes h (mem_nodes_of_mem_kept hc))

theorem keptArguments_pairwise (h : ∀ m ∈ n.nodes, Orderly m) :
    (keptArguments n).Pairwise RowsPrecede := by
  unfold keptArguments
  split
  · exact .nil
  · rename_i arguments harguments
    split
    · exact parts_pairwise fun m hm => h m (Concrete.nodes_subset_of_child? harguments hm)
    · exact List.pairwise_singleton _ _

/-- **What is kept is in order**, whatever levels it comes from. -/
theorem kept_pairwise (h : ∀ m ∈ n.nodes, Orderly m) : (kept n).Pairwise RowsPrecede := by
  -- what is in a field begins no earlier than the field
  have hlater : ∀ {field : String} {f : Concrete}, n.child? field = some f → ∀ c ∈ f.nodes,
      f.data.start.row ≤ c.data.start.row := by
    intro field f hf c hc
    have hnested : ∀ m ∈ f.nodes, Nested m := fun m hm =>
      (h m (Concrete.nodes_subset_of_child? hf hm)).toNested
    exact (rowsEnclose_of_mem_nodes hnested hc).1
  have hn := h n n.mem_nodes_self
  unfold kept
  split
  · rename_i hkind
    split
    · exact parts_pairwise h
    · rename_i callee hcallee
      refine List.pairwise_cons.mpr ⟨fun c hc => ?_, keptArguments_pairwise h⟩
      obtain ⟨arguments, harguments, hc⟩ := exists_of_mem_keptArguments hc
      have hfields : RowsPrecede callee arguments :=
        hn.call hkind callee hcallee arguments harguments
      exact Nat.le_trans hfields (hlater harguments c hc)
  · split
    · exact parts_pairwise h
    · exact List.pairwise_singleton _ _
  · exact .nil
  · rename_i hkind
    split
    · exact parts_pairwise h
    · rename_i name hname
      cases hvalue : n.child? "value" with
      | none => exact List.pairwise_singleton _ _
      | some value =>
        have hfields : RowsPrecede name value := hn.declarator hkind name hname value hvalue
        exact List.pairwise_pair.mpr
          (Nat.le_trans hfields (hlater hvalue _ (unwrap_mem_nodes value)))
  · exact parts_pairwise h

/-! ## Lines of lowered nodes -/

/-- The lines of a node are numbers of lines, and its children are in them and in order. Of two
children the second may begin on the line where the first ends. -/
structure Framed (n : Node) : Prop where
  first_pos : 1 ≤ n.span.startLine
  first_le_last : n.span.startLine ≤ n.span.endLine
  encloses : ∀ c ∈ n.children, n.span.Encloses c.span
  inOrder : n.children.Pairwise fun c e => c.span.Precedes e.span

theorem lower_pairwise (src : Source) {cs : List Concrete}
    (hrows : ∀ c ∈ cs, c.data.start.row ≤ c.data.stop.row) (h : cs.Pairwise RowsPrecede) :
    (cs.map (lower src)).Pairwise fun m n => m.span.Precedes n.span := by
  refine List.pairwise_map.mpr (h.imp_of_mem fun hc _ hce => ?_)
  rw [span_lower, span_lower]
  exact precedes_spanOf (hrows _ hc) hce

theorem framed_lower_self (h : ∀ m ∈ n.nodes, Orderly m) : Framed (lower src n) where
  first_pos := by rw [span_lower]; exact Nat.succ_pos _
  first_le_last := by rw [span_lower]; exact Nat.le_max_right _ _
  encloses m hm := by
    rw [children_lower] at hm
    obtain ⟨c, hc, rfl⟩ := List.mem_map.mp hm
    rw [span_lower, span_lower]
    exact encloses_of_mem_kept (fun m hm => (h m hm).toNested) hc
  inOrder := by
    rw [children_lower]
    exact lower_pairwise src (fun c hc => (h c (mem_nodes_of_mem_kept hc)).start_le_stop)
      (kept_pairwise h)

/-- **The lines of a lowered node and of all below it** are nested and in order. -/
theorem framed_lower (h : ∀ m ∈ n.nodes, Orderly m) : ∀ m ∈ (lower src n).nodes, Framed m := by
  induction n using Concrete.inductionOnSize with
  | h n ih =>
    intro m hm
    rw [Node.nodes_eq, children_lower] at hm
    rcases List.mem_cons.mp hm with rfl | hm
    · exact framed_lower_self h
    · obtain ⟨_, hd, hm⟩ := Node.mem_nodesAll.mp hm
      obtain ⟨c, hc, rfl⟩ := List.mem_map.mp hd
      have hsub : c.nodes ⊆ n.nodes := Concrete.nodes_subset_of_mem (mem_nodes_of_mem_kept hc)
      exact ih c (size_lt_of_mem_kept hc) (fun m hm => h m (hsub hm)) m hm

theorem framed_lowerAll (src : Source) (h : ∀ m ∈ n.nodes, Orderly m) :
    ∀ m ∈ Node.nodesAll (lowerAll src n.parts), Framed m := by
  intro m hm
  rw [lowerAll_eq_map] at hm
  obtain ⟨_, hd, hm⟩ := Node.mem_nodesAll.mp hm
  obtain ⟨c, hc, rfl⟩ := List.mem_map.mp hd
  have hsub : c.nodes ⊆ n.nodes := Concrete.nodes_subset_of_mem (mem_nodes_of_mem_parts hc)
  exact framed_lower (fun m hm => h m (hsub hm)) m hm

/-- Statements are in order. -/
theorem lowerAll_pairwise (src : Source) (h : ∀ m ∈ n.nodes, Orderly m) :
    (lowerAll src n.parts).Pairwise fun m n => m.span.Precedes n.span := by
  rw [lowerAll_eq_map]
  have hrows : ∀ c ∈ n.parts, c.data.start.row ≤ c.data.stop.row := fun c hc =>
    (h c (mem_nodes_of_mem_parts hc)).start_le_stop
  exact lower_pairwise src hrows (parts_pairwise h)

theorem encloses_of_mem_lowerAll (h : ∀ m ∈ n.nodes, Nested m) :
    ∀ s ∈ lowerAll src n.parts, (spanOf n).Encloses s.span := by
  intro s hs
  rw [lowerAll_eq_map] at hs
  obtain ⟨c, hc, rfl⟩ := List.mem_map.mp hs
  have hcn : c ∈ n.nodes := mem_nodes_of_mem_parts hc
  rw [span_lower]
  exact encloses_spanOf (h c hcn).start_le_stop (rowsEnclose_of_mem_nodes h hcn)

/-- **The lines of a lowered tree** are nested and in order. -/
theorem lowered_framed (src : Source) (root : Concrete) (h : ∀ m ∈ root.nodes, Orderly m) :
    (∀ n ∈ root.nodes, (lower src n).span = spanOf n ∧ ∀ m ∈ (lower src n).nodes, Framed m) ∧
    (∀ s ∈ lowerAll src root.parts,
      (spanOf root).Encloses s.span ∧ ∀ m ∈ s.nodes, Framed m) ∧
    (lowerAll src root.parts).Pairwise (fun s t => s.span.Precedes t.span) ∧
    ∀ language t, SyntaxTree.ofConcrete language src root = .ok t →
      (∀ m ∈ t.nodes, Framed m) ∧ t.statements.Pairwise fun s t => s.span.Precedes t.span := by
  have hframed := framed_lowerAll src h
  have horder := lowerAll_pairwise src h
  refine ⟨fun n hn => ⟨span_lower src n, ?_⟩, fun s hs => ⟨?_, fun m hm => ?_⟩, horder,
    fun language t ht => ?_⟩
  · exact framed_lower fun m hm => h m (Concrete.nodes_subset_of_mem hn hm)
  · exact encloses_of_mem_lowerAll (fun m hm => (h m hm).toNested) s hs
  · exact hframed m (Node.mem_nodesAll.mpr ⟨s, hs, hm⟩)
  · obtain ⟨-, -, rfl⟩ := SyntaxTree.ofConcrete_eq_ok_iff.mp ht
    exact ⟨hframed, horder⟩

/-- A call over two lines: its last argument begins on the first and ends on the second. -/
theorem lowered_framed_sample :
    (∀ m ∈ sampleTree.nodes, Orderly m) ∧
      (lowerAll sampleSource sampleCall.parts).map (fun s => s.children.map Node.span) =
        [[⟨2, 2⟩, ⟨2, 2⟩, ⟨2, 3⟩]] ∧
      (∀ m ∈ (lower sampleSource sampleCall).nodes, Framed m) ∧
      (lowerAll sampleSource sampleTree.parts).Pairwise fun s t => s.span.Precedes t.span := by
  have horderly : ∀ m ∈ sampleTree.nodes, Orderly m := by decide +kernel
  have hcall : sampleCall ∈ sampleTree.nodes :=
    Concrete.mem_nodes_of_mem_children (List.mem_cons_of_mem _ List.mem_cons_self)
  obtain ⟨hnodes, -, hstatements, -⟩ := lowered_framed sampleSource sampleTree horderly
  refine ⟨horderly, ?_, (hnodes sampleCall hcall).2, hstatements⟩
  rw [lowerAll_eq_map, List.map_map]
  simp only [Function.comp_def, children_lower, List.map_map, span_lower]
  decide

end TestLocator.Syntax
