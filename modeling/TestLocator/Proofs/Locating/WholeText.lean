import TestLocator.Proofs.Locating.LineByLine
import TestLocator.Proofs.Locating.Origins
import TestLocator.Proofs.Locating.Outcomes
import TestLocator.Proofs.Parsing.Extents
import TestLocator.Proofs.Text.Ascii
import TestLocator.Proofs.Text.Stretch

/-!
# Rows of a tree and lines of its document

A tree tells lines by the line feeds before a place of the text, and a document by cutting its text
at them and leaving an empty last line out. For all nodes that hold something these are the same
lines.

* `CountsRows`, `TakesUp` — the rows of a node, and the nodes that hold something;
* `HoldsAcross`, `Quoted`, `quoted_ofText` — the lines of a node hold its text;
* `FindsWhole`, `findsWhole_of_ofConcrete` — what this says of a search;
* `countsRows_of_concreteTree` — the rows of the trees that are searched;
* **`lines_hold_nodes`** — the rows of a tree against the lines of a document.
-/

namespace TestLocator.Locating

open TestLocator.Files TestLocator.Parsing TestLocator.Syntax TestLocator.Text

/-! ## Places of nodes -/

/-- The text of a document as it is read. -/
def Document.source (d : Document) : Source := .ofString d.text

/-- The rows of a node count the line feeds among the bytes before its start and its end. -/
def CountsRows (d : Document) (n : Concrete) : Prop :=
  n.data.start.row = (encode (d.text.toList.take n.data.start.offset)).count 10 ∧
    n.data.stop.row = (encode (d.text.toList.take n.data.stop.offset)).count 10

/-- A node holds something, and its end is in the text and not right behind a line feed. -/
def TakesUp (d : Document) (n : Concrete) : Prop :=
  n.data.start.offset < n.data.stop.offset ∧ n.data.stop.offset ≤ d.text.toList.length ∧
    (d.text.toList.take n.data.stop.offset).getLast? ≠ some '\n'

instance (d : Document) : DecidablePred (CountsRows d) := fun n => by
  unfold CountsRows; infer_instance

instance (d : Document) : DecidablePred (TakesUp d) := fun n => by
  unfold TakesUp; infer_instance

/-- Some lines hold a text that begins on the first and ends on the last of them. -/
def HoldsAcross (quoted inner : List Char) : Prop :=
  ∃ front back, quoted = front ++ inner ++ back ∧ '\n' ∉ front ∧ '\n' ∉ back

/-- The lines of a node are lines of a document and hold the text of the node. -/
structure Quoted (d : Document) (n : Concrete) : Prop where
  one_le_start : 1 ≤ (spanOf n).startLine
  start_le_end : (spanOf n).startLine ≤ (spanOf n).endLine
  end_le_lineCount : (spanOf n).endLine ≤ d.lineCount
  exists_slice : ∃ s, d.slice? (spanOf n).startLine (spanOf n).endLine = some s ∧
    HoldsAcross s.toList (n.text d.source).toList

section Nodes

variable {d : Document} {n : Concrete}

theorem CountsRows.spanOf_eq (hrows : CountsRows d n) (htakes : TakesUp d n) :
    spanOf n = ⟨(d.text.toList.take n.data.start.offset).count '\n' + 1,
      (d.text.toList.take n.data.start.offset).count '\n' +
        ((d.text.toList.drop n.data.start.offset).take
          (n.data.stop.offset - n.data.start.offset)).count '\n' + 1⟩ := by
  have hfeed : (10 : UInt8) = UInt8.ofNat '\n'.toNat := rfl
  obtain ⟨hstart, hstop⟩ := hrows
  rw [hfeed, count_encode (by decide)] at hstart hstop
  rw [← take_append_between _ (Nat.le_of_lt htakes.1), List.count_append] at hstop
  rw [spanOf, hstart, hstop, LineSpan.mk.injEq]
  exact ⟨rfl, Nat.max_eq_left (by omega)⟩

/-- **The lines of a node hold its text.** -/
theorem quoted_ofText (path : Path) (text marker : String)
    (hrows : CountsRows (.ofText path text marker) n)
    (htakes : TakesUp (.ofText path text marker) n) : Quoted (.ofText path text marker) n := by
  have hsplit := splitOn_text_ofText path text marker
  have hinner := Source.slice_ofString (Document.ofText path text marker).text
    n.data.start.offset n.data.stop.offset
  have hspan := hrows.spanOf_eq htakes
  obtain ⟨hlt, hle, hfeed⟩ := htakes
  obtain ⟨hlast, front, back, hjoin, hnofront, hnoback⟩ := joinLines_between hlt hle hfeed
  rw [hsplit] at hlast hjoin
  rw [← lineCount_ofText path] at hlast
  constructor
  · rw [hspan]
    exact Nat.le_add_left 1 _
  · rw [hspan]
    exact Nat.add_le_add_right (Nat.le_add_right _ _) 1
  · rw [hspan]
    exact hlast
  · simp only [hspan]
    rw [Document.slice?_eq, if_pos ⟨by omega, by omega, hlast⟩]
    refine ⟨_, rfl, front, back, ?_, hnofront, hnoback⟩
    rw [toList_intercalate_linesFrom (by omega) (by omega) hlast, Concrete.text, Document.source,
      hinner, ← hjoin]
    congr 2
    omega

end Nodes

/-! ## Searches -/

/-- A search for a line finds whole declarations: no declaration around the line is passed over
because it is outside the document, and what is found holds the whole text of one. -/
structure FindsWhole (d : Document) (root : Concrete) (t : SyntaxTree) (line : Nat) : Prop where
  inside : ∀ n ∈ t.nodes, n.span.Contains line → (recognize n).isSome → (ownBlock d line n).isSome
  whole : ∀ b, findInTree t d line = some b → ∃ n ∈ root.nodes, (declaredRule d.source n).isSome ∧
    b.span = spanOf n ∧ (spanOf n).Contains line ∧
      HoldsAcross b.text.toList (n.text d.source).toList

section Searches

variable {d : Document} {language : Language} {root : Concrete} {t : SyntaxTree}

theorem exists_declared_of_mem_nodes (ht : SyntaxTree.ofConcrete language d.source root = .ok t)
    {m : Node} (hm : m ∈ t.nodes) (hrule : (recognize m).isSome) :
    ∃ n ∈ root.nodes, (declaredRule d.source n).isSome ∧ m.span = spanOf n := by
  obtain ⟨-, -, rfl⟩ := SyntaxTree.ofConcrete_eq_ok_iff.mp ht
  rw [SyntaxTree.nodes_eq] at hm
  obtain ⟨n, hn, rfl⟩ := exists_of_mem_lowerAll hm
  obtain ⟨rule, hrule⟩ := Option.isSome_iff_exists.mp hrule
  refine ⟨n, hn, ?_, span_lower _ n⟩
  rw [declaredRule_of_recognize_lower hrule]
  rfl

theorem findsWhole_of_ofConcrete
    (hroot : ∀ n ∈ root.nodes, (declaredRule d.source n).isSome → Quoted d n)
    (ht : SyntaxTree.ofConcrete language d.source root = .ok t) (line : Nat) :
    FindsWhole d root t line := by
  constructor
  · intro m hm hline hrule
    obtain ⟨n, hn, hdeclared, hspan⟩ := exists_declared_of_mem_nodes ht hm hrule
    obtain ⟨s, hs, -⟩ := (hroot n hn hdeclared).exists_slice
    rw [ownBlock, if_pos ⟨hline, hrule⟩, blockAt?, Option.isSome_map, hspan, hs]
    rfl
  · intro b hb
    rw [findInTree_eq] at hb
    obtain ⟨m, hm, heligible, rfl⟩ := exists_of_find?_eligible hb
    obtain ⟨n, hn, hdeclared, hspan⟩ := exists_declared_of_mem_nodes ht hm heligible.declares
    have hquoted := hroot n hn hdeclared
    obtain ⟨s, hs, hholds⟩ := hquoted.exists_slice
    rw [Document.slice?_eq, if_pos ⟨hquoted.one_le_start, hquoted.start_le_end,
      hquoted.end_le_lineCount⟩] at hs
    refine ⟨n, hn, hdeclared, hspan, hspan ▸ heligible.encloses, ?_⟩
    rw [blockOf, hspan, Option.some.inj hs]
    exact hholds

theorem countsRows_of_concreteTree {levels : Nat} {n : Concrete}
    (hroot : Script.concreteTree language d.source levels = some root) (hn : n ∈ root.nodes)
    (htakes : TakesUp d n) : CountsRows d n := by
  obtain ⟨tree, -, rfl⟩ := Option.map_eq_some_iff.mp hroot
  obtain ⟨⟨i, hstart⟩, j, hstop⟩ := exists_point_of_mem_ofTree hn
  obtain ⟨hlt, hle, -⟩ := htakes
  rw [hstart, hstop] at hlt
  rw [hstop] at hle
  have hfeed : (10 : UInt8) = UInt8.ofNat '\n'.toNat := rfl
  rw [CountsRows, hstart, hstop, hfeed, count_encode (by decide), count_encode (by decide)]
  exact ⟨Source.rowOf_ofString (Nat.le_trans (Nat.le_of_lt hlt) hle), Source.rowOf_ofString hle⟩

theorem exists_root_of_parseDocument (h : parseDocument d = .ok t) :
    ∃ language root, Script.concreteTree language d.source (maxNesting + 1) = some root ∧
      SyntaxTree.ofConcrete language d.source root = .ok t := by
  obtain ⟨t', ht'⟩ | ⟨fault, hfault⟩ := parses_or_rejected d
  · obtain rfl : t' = t := Except.ok.inj (ht'.parseDocument_eq.symm.trans h)
    cases ht' with
    | own hown => exact ⟨_, SyntaxTree.ofText_eq_ok_iff.mp hown⟩
    | typed _ _ htyped => exact ⟨_, SyntaxTree.ofText_eq_ok_iff.mp htyped⟩
  · rw [hfault.parseDocument_eq] at h
    cases h

end Searches

/-- **The lines of a document hold the nodes of its tree**, so searches find whole declarations. -/
theorem lines_hold_nodes (path : Path) (text marker : String) :
    (∀ n, CountsRows (.ofText path text marker) n → TakesUp (.ofText path text marker) n →
      Quoted (.ofText path text marker) n) ∧
    (∀ language root t,
      SyntaxTree.ofConcrete language (Document.ofText path text marker).source root = .ok t →
      (∀ n ∈ root.nodes, (declaredRule (Document.ofText path text marker).source n).isSome →
        CountsRows (.ofText path text marker) n ∧ TakesUp (.ofText path text marker) n) →
      ∀ line, FindsWhole (.ofText path text marker) root t line) ∧
    ∀ t, parseDocument (.ofText path text marker) = .ok t →
      (∀ line b, findInDocument (.ofText path text marker) line = .ok b ↔
        findInTree t (.ofText path text marker) line = some b) ∧
      ∃ language root,
        Script.concreteTree language (Document.ofText path text marker).source (maxNesting + 1) =
          some root ∧
        SyntaxTree.ofConcrete language (Document.ofText path text marker).source root = .ok t ∧
        (∀ n ∈ root.nodes, TakesUp (.ofText path text marker) n →
          CountsRows (.ofText path text marker) n) ∧
        ((∀ n ∈ root.nodes, (declaredRule (Document.ofText path text marker).source n).isSome →
            TakesUp (.ofText path text marker) n) →
          ∀ line, FindsWhole (.ofText path text marker) root t line) := by
  have hquoted : ∀ n, CountsRows (.ofText path text marker) n →
      TakesUp (.ofText path text marker) n → Quoted (.ofText path text marker) n :=
    fun n => quoted_ofText path text marker
  refine ⟨hquoted, fun language root t ht hroot line => ?_, fun t ht => ⟨fun line b => ?_, ?_⟩⟩
  · refine findsWhole_of_ofConcrete (fun n hn hdeclared => ?_) ht line
    obtain ⟨hrows, htakes⟩ := hroot n hn hdeclared
    exact hquoted n hrows htakes
  · rw [findInDocument_eq_ok_iff, ht]
    simp
  · obtain ⟨language, root, hroot, hconcrete⟩ := exists_root_of_parseDocument ht
    have hrows := fun n hn => countsRows_of_concreteTree (n := n) hroot hn
    refine ⟨language, root, hroot, hconcrete, hrows, fun htakes line => ?_⟩
    refine findsWhole_of_ofConcrete (fun n hn hdeclared => ?_) hconcrete line
    exact hquoted n (hrows n hn (htakes n hn hdeclared)) (htakes n hn hdeclared)

/-- The sample in another spelling: with other breaks, and with the marker in it. -/
def respelledSample : Document :=
  .ofText ⟨"a.test.js"⟩ "const f = (x => 1);\r\nit('a', y =>$E\r  f);\n" "$E"

/-- In the sample, whose text is another one, each declaration is whole. -/
theorem lines_hold_nodes_sample :
    (∀ n ∈ sampleTree.nodes, (declaredRule respelledSample.source n).isSome →
        CountsRows respelledSample n ∧ TakesUp respelledSample n) ∧
      Quoted respelledSample sampleCall ∧
      ∃ t, SyntaxTree.ofConcrete .javaScript respelledSample.source sampleTree = .ok t ∧
        ∀ line, FindsWhole respelledSample sampleTree t line := by
  have hnodes : ∀ n ∈ sampleTree.nodes, (declaredRule respelledSample.source n).isSome →
      CountsRows respelledSample n ∧ TakesUp respelledSample n := by
    decide +kernel
  have htree : SyntaxTree.ofConcrete .javaScript respelledSample.source sampleTree =
      .ok ⟨.javaScript, lowerAll respelledSample.source sampleTree.parts⟩ :=
    SyntaxTree.ofConcrete_eq_ok_iff.mpr ⟨by decide +kernel, rfl, rfl⟩
  obtain ⟨hquoted, hfinds, -⟩ := lines_hold_nodes ⟨"a.test.js"⟩
    "const f = (x => 1);\r\nit('a', y =>$E\r  f);\n" "$E"
  exact ⟨hnodes, hquoted sampleCall (by decide +kernel) (by decide +kernel), _, htree,
    hfinds _ _ _ htree hnodes⟩

end TestLocator.Locating
