import TestLocator.Proofs.Locating.LineByLine
import TestLocator.Proofs.Locating.Origins
import TestLocator.Proofs.Locating.SuiteTree
import TestLocator.Proofs.Syntax.Acceptance

/-!
# Searches in a script of one test

Every line of the test is found to be in it, and no other line of the script is in a test. What the
grammar makes of the script is taken as given: a search may read a script in any way that makes its
tree.

* `Reader`, `findInDocumentBy`, `findInDocumentBy_concreteTree` — searches that read a script in
  some way;
* `text_ofText_suite`, `linesFrom_suite` — the document of the script;
* `findInTree_of_span` — searches in a tree whose declarations all take the same lines;
* **`findInDocumentBy_suite`** — searches in the script.
-/

namespace TestLocator.Locating

open TestLocator.Files TestLocator.Parsing TestLocator.Parsing.Sketch TestLocator.Syntax
  TestLocator.Text

/-! ## Searches that read a script in any way -/

/-- How a concrete tree is made of a script in a language, with at most so many levels below its
root. -/
abbrev Reader := Language → Source → Nat → Option Concrete

/-- The syntax tree of a text that is read in some way. -/
def ofTextBy (reader : Reader) (language : Language) (text : String) : Except Fault SyntaxTree :=
  let src := Source.ofString text
  match reader language src (maxNesting + 1) with
  | some root => SyntaxTree.ofConcrete language src root
  | none => .error ⟨.unknown, 1, 1⟩

/-- The tree of a document that is read in some way. -/
def parseDocumentBy (reader : Reader) (d : Document) : Except Failure SyntaxTree :=
  match ofTextBy reader d.language d.text with
  | .ok t => .ok t
  | .error fault =>
    let failure := Failure.parse d.path fault.line fault.column fault.message
    if d.language = .javaScript then
      match ofTextBy reader .tsx d.text with
      | .ok t => .ok t
      | .error _ => .error failure
    else .error failure

/-- The first test that encloses a line in a document that is read in some way. -/
def findInDocumentBy (reader : Reader) (d : Document) (line : Nat) : Except Failure TestBlock :=
  match parseDocumentBy reader d with
  | .error e => .error e
  | .ok t =>
    match findInTree t d line with
    | some b => .ok b
    | none => .error (.noMatch d.path line)

theorem ofTextBy_concreteTree (language : Language) (text : String) :
    ofTextBy Script.concreteTree language text = SyntaxTree.ofText language text := by
  unfold ofTextBy SyntaxTree.ofText
  cases Script.concreteTree language (.ofString text) (maxNesting + 1) <;> rfl

theorem parseDocumentBy_concreteTree (d : Document) :
    parseDocumentBy Script.concreteTree d = parseDocument d := by
  cases hown : SyntaxTree.ofText d.language d.text with
  | ok t => simp [parseDocumentBy, parseDocument, ofTextBy_concreteTree, hown]
  | error fault =>
    cases htyped : SyntaxTree.ofText .tsx d.text <;>
      simp [parseDocumentBy, parseDocument, ofTextBy_concreteTree, hown, htyped]

theorem findInDocumentBy_concreteTree (d : Document) (line : Nat) :
    findInDocumentBy Script.concreteTree d line = findInDocument d line := by
  cases hparse : parseDocument d with
  | error e => simp [findInDocumentBy, findInDocument, parseDocumentBy_concreteTree, hparse]
  | ok t =>
    cases hfind : findInTree t d line <;>
      simp [findInDocumentBy, findInDocument, parseDocumentBy_concreteTree, hparse, hfind]

theorem findInDocumentBy_eq {reader : Reader} {d : Document} {root : Concrete} {t : SyntaxTree}
    (hroot : reader d.language (.ofString d.text) (maxNesting + 1) = some root)
    (ht : SyntaxTree.ofConcrete d.language (.ofString d.text) root = .ok t) (line : Nat) :
    findInDocumentBy reader d line =
      match findInTree t d line with
      | some b => .ok b
      | none => .error (.noMatch d.path line) := by
  have htext : ofTextBy reader d.language d.text = .ok t := by
    rw [ofTextBy]
    simp only [hroot, ht]
  have hparse : parseDocumentBy reader d = .ok t := by rw [parseDocumentBy, htext]
  rw [findInDocumentBy, hparse]

/-! ## The document of the script -/

section Suite

variable {name : String} {n m : Nat}

theorem notMem_suiteText (hname : LettersAndDigits name) {c : Char} (hc : c ∈ ['\r', '$']) :
    c ∉ (suiteText name n m).toList := by
  intro hmem
  rw [toList_suiteText] at hmem
  rcases mem_joinLines hmem with rfl | ⟨l, hl, hmem⟩
  · exact absurd hc (by decide)
  · obtain ⟨s, hs, rfl⟩ := List.mem_map.mp hl
    exact tame_of_mem_suiteLines hname hs c hmem (List.mem_cons_of_mem _ hc)

variable {marker : String}

theorem text_ofText_suite (path : Path) (hname : LettersAndDigits name)
    (hmarker : marker = "" ∨ marker = defaultMarker) :
    (Document.ofText path (suiteText name n m) marker).text = suiteText name n m := by
  have hreturn : '\r' ∉ (suiteText name n m).toList := notMem_suiteText hname (by decide)
  have hdollar : '$' ∉ (suiteText name n m).toList := notMem_suiteText hname (by decide)
  have hself : Removal marker.toList (suiteText name n m).toList (suiteText name n m).toList := by
    rcases hmarker with rfl | rfl
    · exact removal_nil_word _
    · exact .of_notMem (by decide) hdollar
  rw [← String.toList_inj, toList_text_ofText, unifyBreaks_of_notMem hreturn]
  rcases removal_stripMarker_or marker.toList (suiteText name n m).toList with
    ⟨_, hremoval⟩ | ⟨_, heq⟩
  · rw [hremoval.eq_removeAll, ← hself.eq_removeAll]
  · exact heq

theorem lines_ofText_suite (path : Path) (hname : LettersAndDigits name)
    (hmarker : marker = "" ∨ marker = defaultMarker) :
    (Document.ofText path (suiteText name n m) marker).lines = suiteLines name n m := by
  have hsplit : (suiteText name n m).toList.splitOn '\n' =
      (suiteLines name n m ++ [""]).map String.toList := by
    rw [toList_suiteText]
    exact List.splitOn_intercalate '\n'
      (lineFeed_notMem_of_tame fun l hl => tame_of_mem_suiteLines hname hl) (by simp)
  have hdrop : dropBlankEnd ((suiteLines name n m ++ [""]).map String.toList) =
      (suiteLines name n m).map String.toList := by
    simp [dropBlankEnd]
  rw [lines_ofText, ← splitOn_text_ofText path, text_ofText_suite path hname hmarker, hsplit, hdrop,
    List.map_map]
  simp [Function.comp_def]

theorem linesFrom_suite (path : Path) (hname : LettersAndDigits name)
    (hmarker : marker = "" ∨ marker = defaultMarker) :
    n + m + 3 ≤ (Document.ofText path (suiteText name n m) marker).lineCount ∧
      (Document.ofText path (suiteText name n m) marker).linesFrom (n + 2) (n + m + 3) =
        testLines name m := by
  have hlines : (Document.ofText path (suiteText name n m) marker).lines =
      (importLine :: (List.range n).map paddingLine) ++ testLines name m :=
    lines_ofText_suite path hname hmarker
  have htest : (testLines name m).length = m + 2 := by simp [testLines]
  have hcount : (Document.ofText path (suiteText name n m) marker).lineCount = n + m + 3 := by
    rw [Document.lineCount, hlines, List.length_append, htest, List.length_cons, List.length_map,
      List.length_range]
    omega
  refine ⟨Nat.le_of_eq hcount.symm, ?_⟩
  rw [Document.linesFrom_eq _ (by omega) (by omega) (by omega), hlines,
    List.drop_left' (by simp), List.take_of_length_le (by omega)]

/-! ## The search -/

theorem findInTree_of_span {t : SyntaxTree} {d : Document} {s : LineSpan}
    (hspan : ∀ k ∈ t.nodes, (recognize k).isSome → k.span = s)
    (hsome : ∃ k ∈ t.nodes, (recognize k).isSome) (hfirst : 1 ≤ s.startLine)
    (hle : s.startLine ≤ s.endLine) (hlast : s.endLine ≤ d.lineCount) (line : Nat) :
    findInTree t d line =
      if s.Contains line then
        some ⟨"\n".intercalate (d.linesFrom s.startLine s.endLine), s.startLine, s.endLine⟩
      else none := by
  rw [findInTree_eq]
  split_ifs with hline
  · obtain ⟨k, hk, hrule⟩ := hsome
    have hks := hspan k hk hrule
    have heligible : Eligible d line k := by
      refine ⟨?_, hrule, ?_, ?_, ?_⟩ <;> rw [hks] <;> assumption
    have hfound : (t.nodes.find? (Eligible d line ·)).isSome := by
      rw [List.find?_isSome]
      exact ⟨k, hk, by simpa using heligible⟩
    obtain ⟨k', hk'⟩ := Option.isSome_iff_exists.mp hfound
    have hdeclares : Eligible d line k' := by simpa using List.find?_some hk'
    rw [hk', Option.map_some, blockOf,
      hspan k' (List.mem_of_find?_eq_some hk') hdeclares.declares]
  · rw [Option.map_eq_none_iff, List.find?_eq_none]
    intro k hk heligible
    have heligible : Eligible d line k := by simpa using heligible
    exact hline (hspan k hk heligible.declares ▸ heligible.encloses)

/-- The syntax tree of the script. -/
def suiteSyntax (language : Language) (name : String) (n m : Nat) : SyntaxTree :=
  ⟨language, lowerAll (.ofString (suiteText name n m)) (suiteTree name n m).parts⟩

theorem ofConcrete_suiteTree (language : Language) (name : String) (n m : Nat) :
    SyntaxTree.ofConcrete language (.ofString (suiteText name n m)) (suiteTree name n m) =
      .ok (suiteSyntax language name n m) :=
  SyntaxTree.ofConcrete_eq_ok_iff.mpr ⟨fun _ hx => level_le_of_mem_suiteTree hx, rfl, rfl⟩

theorem span_of_mem_suiteSyntax (hname : LettersAndDigits name) {language : Language} {k : Node}
    (hk : k ∈ (suiteSyntax language name n m).nodes) (hrule : (recognize k).isSome) :
    k.span = ⟨n + 2, n + m + 3⟩ := by
  obtain ⟨c, hc, rfl⟩ := exists_of_mem_lowerAll hk
  obtain ⟨rule, hrule⟩ := Option.isSome_iff_exists.mp hrule
  have hdeclared := declaredRule_of_recognize_lower hrule
  have hmem : (rule, (spanOf c).startLine, (spanOf c).endLine) ∈
      declarationsOf (suiteText name n m) [suiteTree name n m] := by
    refine List.mem_filterMap.mpr ⟨c, ?_, ?_⟩
    · rwa [Concrete.nodesAll_cons, Concrete.nodesAll_nil, List.append_nil]
    · rw [concreteDeclaration?, hdeclared]
      rfl
  have hprogram : (suiteTree name n m).kind = "program" := rfl
  have hroot : declarationsOf (suiteText name n m) [suiteTree name n m] =
      declarationsOf (suiteText name n m) (drawnAll textStart (suiteSketches name n m)) :=
    declarationsOf_plain hprogram (by decide) (by decide)
  rw [hroot, declarationsOf_suite hname, List.mem_singleton, Prod.mk.injEq, Prod.mk.injEq] at hmem
  rw [span_lower, ← hmem.2.1, ← hmem.2.2]

theorem mem_parts_suiteTree {statement : Concrete}
    (h : (testSketch name m).drawn (testStart n) = [statement]) :
    statement ∈ (suiteTree name n m).parts := by
  refine List.mem_filter.mpr ⟨?_, ?_⟩
  · rw [testStart] at h
    rw [suiteTree, Concrete.children, suiteSketches, drawnAll_append, drawnAll, h]
    exact List.mem_append_right _ List.mem_cons_self
  · obtain rfl := List.singleton_inj.mp h
    rfl

/-- Among the nodes of the script there is the test. -/
theorem exists_mem_suiteSyntax (language : Language) (name : String) (n m : Nat) :
    ∃ k ∈ (suiteSyntax language name n m).nodes, (recognize k).isSome := by
  obtain ⟨statement, hstatement⟩ : ∃ c, (testSketch name m).drawn (testStart n) = [c] := ⟨_, rfl⟩
  obtain ⟨call, hcall⟩ :
    ∃ c, (nameCall [] "it" (testArguments name m)).drawn (testStart n) = [c] := ⟨_, rfl⟩
  have hkept : call ∈ kept statement := by
    obtain rfl := List.singleton_inj.mp hstatement
    obtain rfl := List.singleton_inj.mp hcall
    exact List.mem_cons_self
  have hname : Stands (suiteText name n m) (testStart n) "it".toList :=
    (stands_append.mp (stands_append.mp (stands_testSketch name n m)).1).1
  have hrule := recognize_lower_nameCall hcall hname (by decide)
  have hlowered : lower (.ofString (suiteText name n m)) statement ∈
      lowerAll (.ofString (suiteText name n m)) (suiteTree name n m).parts := by
    rw [lowerAll_eq_map]
    exact List.mem_map_of_mem (mem_parts_suiteTree hstatement)
  refine ⟨lower _ call, Node.mem_nodesAll.mpr ⟨_, hlowered, mem_nodes_lower_of_mem_kept hkept⟩, ?_⟩
  rw [hrule]
  rfl

end Suite

/-- **Every line of the test is found to be in it**, and no other line of the script in a test. -/
theorem findInDocumentBy_suite (reader : Reader) (path : Path) (marker name : String) (n m : Nat)
    (hname : LettersAndDigits name) (hmarker : marker = "" ∨ marker = defaultMarker)
    (hreader : reader (languageOf path) (.ofString (suiteText name n m)) (maxNesting + 1) =
      some (suiteTree name n m)) :
    (∀ line, findInDocumentBy reader (.ofText path (suiteText name n m) marker) line =
      if n + 2 ≤ line ∧ line ≤ n + m + 3 then
        .ok ⟨"\n".intercalate (testLines name m), n + 2, n + m + 3⟩
      else .error (.noMatch path line)) ∧
    ∀ d line, findInDocumentBy Script.concreteTree d line = findInDocument d line := by
  have htext := text_ofText_suite (n := n) (m := m) path hname hmarker
  obtain ⟨hcount, hlines⟩ := linesFrom_suite (n := n) (m := m) path hname hmarker
  have htree : SyntaxTree.ofConcrete (languageOf path)
      (.ofString (Document.ofText path (suiteText name n m) marker).text) (suiteTree name n m) =
        .ok (suiteSyntax (languageOf path) name n m) := by
    rw [htext]
    exact ofConcrete_suiteTree _ name n m
  have hroot : reader (languageOf path)
      (.ofString (Document.ofText path (suiteText name n m) marker).text) (maxNesting + 1) =
        some (suiteTree name n m) := by
    rw [htext]
    exact hreader
  refine ⟨fun line => ?_, findInDocumentBy_concreteTree⟩
  have hspan : LineSpan.Contains ⟨n + 2, n + m + 3⟩ line ↔ n + 2 ≤ line ∧ line ≤ n + m + 3 := .rfl
  have hfind := findInTree_of_span (fun k hk => span_of_mem_suiteSyntax hname hk)
    (exists_mem_suiteSyntax (languageOf path) name n m) (by simp) (by simp; omega) hcount line
  rw [findInDocumentBy_eq hroot htree, hfind, hlines]
  by_cases hline : n + 2 ≤ line ∧ line ≤ n + m + 3
  · rw [if_pos (hspan.mpr hline), if_pos hline]
  · rw [if_neg (mt hspan.mp hline), if_neg hline]
    rfl

/-- A reader of one script, which gives the tree of the script and of no other text. -/
def readSuite (name : String) (n m : Nat) : Reader := fun _ src _ =>
  if src.text = suiteText name n m then some (suiteTree name n m) else none

/-- A script with one binding and one line in the test. -/
theorem findInDocumentBy_suite_sample :
    suiteText "ab1" 1 1 = "import \x7b helper \x7d from './helper';\nconst value0 = 0;\n" ++
        "it('ab1', () => \x7b\n  expect(helper(0)).toBe(0);\n\x7d);\n" ∧
      LettersAndDigits "ab1" ∧
      readSuite "ab1" 1 1 .javaScript (.ofString (suiteText "ab1" 1 1)) (maxNesting + 1) =
        some (suiteTree "ab1" 1 1) ∧
      findInDocumentBy (readSuite "ab1" 1 1)
          (.ofText ⟨"a.test.js"⟩ (suiteText "ab1" 1 1) defaultMarker) 4 =
        .ok ⟨"it('ab1', () => \x7b\n  expect(helper(0)).toBe(0);\n\x7d);", 3, 5⟩ ∧
      findInDocumentBy (readSuite "ab1" 1 1)
          (.ofText ⟨"a.test.js"⟩ (suiteText "ab1" 1 1) defaultMarker) 6 =
        .error (.noMatch ⟨"a.test.js"⟩ 6) := by
  have hname : LettersAndDigits "ab1" := by decide
  have hreader : readSuite "ab1" 1 1 .javaScript (.ofString (suiteText "ab1" 1 1))
      (maxNesting + 1) = some (suiteTree "ab1" 1 1) := if_pos rfl
  have hlines : "\n".intercalate (testLines "ab1" 1) =
      "it('ab1', () => \x7b\n  expect(helper(0)).toBe(0);\n\x7d);" := by decide +kernel
  have hfind := (findInDocumentBy_suite (readSuite "ab1" 1 1) ⟨"a.test.js"⟩ defaultMarker "ab1" 1 1
    hname (.inr rfl) hreader).1
  exact ⟨by decide +kernel, hname, hreader, (hfind 4).trans (by rw [hlines]; rfl), hfind 6⟩

end TestLocator.Locating
