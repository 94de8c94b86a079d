import TestLocator.Proofs.Locating.Quiet
import TestLocator.Proofs.Text.Stretch
import TestLocator.Syntax.Tree

/-!
# A script of one test

A script that imports something, binds some names to numbers and then calls one test, with any
number of bindings and any number of lines in the test.

* `testLines`, `suiteLines`, `suiteText` — the script;
* `suiteSketches`, `suiteTree` — its concrete tree;
* `written_suiteSketches` — the tree is one of the script;
* `LettersAndDigits`, `Tame`, `tame_of_mem_suiteLines` — the lines of the script;
* **`declarationsOf_suite`** — what the tree declares;
* `level_le_of_mem_suiteTree` — how deep it is.
-/

namespace TestLocator.Locating

open TestLocator.Parsing TestLocator.Parsing.Sketch TestLocator.Syntax TestLocator.Text

/-! ## The script -/

/-- The line that imports something. -/
def importLine : String := "import \x7b helper \x7d from './helper';"

/-- A line that binds a name to a number. -/
def paddingLine (i : Nat) : String :=
  .join ["const value", toString i, " = ", toString i, ";"]

/-- The line that opens the test. -/
def openingLine (name : String) : String := .join ["it('", name, "', () => \x7b"]

/-- A line in the test. -/
def bodyLine (i : Nat) : String :=
  .join ["  expect(helper(", toString i, ")).toBe(", toString i, ");"]

/-- The lines of the test. -/
def testLines (name : String) (m : Nat) : List String :=
  openingLine name :: ((List.range m).map bodyLine ++ ["\x7d);"])

/-- The lines of the script. -/
def suiteLines (name : String) (n m : Nat) : List String :=
  importLine :: ((List.range n).map paddingLine ++ testLines name m)

/-- The script, of which every line is ended by a line feed. -/
def suiteText (name : String) (n m : Nat) : String :=
  "\n".intercalate (suiteLines name n m ++ [""])

theorem toList_suiteText (name : String) (n m : Nat) : (suiteText name n m).toList =
    joinLines ((suiteLines name n m ++ [""]).map String.toList) :=
  String.toList_intercalate

/-! ## Its tree -/

/-- A string in single quotes. -/
def quotedString (fields : List String) (text : String) : Sketch :=
  .node "string" fields (token "'" ::
    ((if text = "" then [] else [.leaf "string_fragment" true [] text]) ++ [token "'"]))

/-- The import. -/
def importSketch : Sketch :=
  .node "import_statement" [] [token "import", .gap " ",
    .node "import_clause" [] [.node "named_imports" [] [token "\x7b", .gap " ",
      .node "import_specifier" [] [.leaf "identifier" true ["name"] "helper"], .gap " ",
      token "\x7d"]],
    .gap " ", token "from", .gap " ", quotedString ["source"] "./helper", token ";"]

/-- A binding. -/
def paddingSketch (i : Nat) : Sketch :=
  .node "lexical_declaration" [] [.leaf "const" false ["kind"] "const", .gap " ",
    numberBinding ("value" ++ toString i) (toString i), token ";"]

/-- A number as an argument. -/
def numberArgument (i : Nat) : Sketch := .leaf "number" true [] (toString i)

/-- A statement in the test. -/
def bodySketch (i : Nat) : Sketch :=
  .node "expression_statement" [] [
    memberCall [] "expect" [nameCall [] "helper" [numberArgument i]] "toBe" [numberArgument i],
    token ";"]

/-- The statements in the test, with the braces around them. -/
def blockSketch (m : Nat) : Sketch :=
  .node "statement_block" ["body"] (token "\x7b" ::
    ((List.range m).flatMap (fun i => [.gap "\n  ", bodySketch i]) ++ [.gap "\n", token "\x7d"]))

/-- The arguments of the test: its name and a function. -/
def testArguments (name : String) (m : Nat) : List Sketch :=
  [quotedString [] name, token ",", .gap " ",
    .node "arrow_function" [] [.node "formal_parameters" ["parameters"] [token "(", token ")"],
      .gap " ", token "=>", .gap " ", blockSketch m]]

/-- The test. -/
def testSketch (name : String) (m : Nat) : Sketch :=
  .node "expression_statement" [] [nameCall [] "it" (testArguments name m), token ";"]

/-- What comes before the test. -/
def introSketches (n : Nat) : List Sketch :=
  importSketch :: ((List.range n).flatMap (fun i => [.gap "\n", paddingSketch i]) ++ [.gap "\n"])

/-- The statements of the script. -/
def suiteSketches (name : String) (n m : Nat) : List Sketch :=
  introSketches n ++ [testSketch name m, .gap "\n"]

/-- The place where a text starts. -/
def textStart : Point := ⟨0, 0, 0⟩

/-- The concrete tree of the script. -/
def suiteTree (name : String) (n m : Nat) : Concrete :=
  .node
    { kind := "program", start := textStart, stop := textStart.past (suiteText name n m).toList }
    (drawnAll textStart (suiteSketches name n m))

/-- The place where the test starts. -/
def testStart (n : Nat) : Point := textStart.past (writtenAll (introSketches n))

/-! ## The tree against the script -/

theorem written_importSketch : importSketch.written = importLine.toList := by decide

theorem written_quotedString (fields : List String) (text : String) :
    (quotedString fields text).written = '\'' :: (text.toList ++ ['\'']) := by
  by_cases h : text = ""
  · simp [quotedString, h, written, writtenAll, token]
  · simp [quotedString, h, written, writtenAll, token]

theorem written_paddingSketch (i : Nat) :
    (paddingSketch i).written = (paddingLine i).toList := by
  simp [paddingSketch, paddingLine, numberBinding, token, written, writtenAll]

theorem written_bodySketch (i : Nat) :
    "  ".toList ++ (bodySketch i).written = (bodyLine i).toList := by
  simp [bodySketch, bodyLine, memberCall, nameCall, callOf, argumentList, numberArgument, token,
    written, writtenAll]

theorem written_testSketch (name : String) (m : Nat) :
    (testSketch name m).written = joinLines ((testLines name m).map String.toList) := by
  have hblock : (blockSketch m).written = '\x7b' ::
      ((List.range m).flatMap (fun i => '\n' :: (bodyLine i).toList) ++ "\n\x7d".toList) := by
    simp [blockSketch, token, written, writtenAll, writtenAll_append, writtenAll_flatMap,
      ← written_bodySketch]
  rw [testLines, List.map_cons, joinLines_cons_flatMap]
  simp [testSketch, testArguments, nameCall, callOf, argumentList, token, written, writtenAll,
    written_quotedString, hblock, openingLine, List.flatMap_map]

theorem written_introSketches (n : Nat) : writtenAll (introSketches n) =
    joinLines ((importLine :: ((List.range n).map paddingLine ++ [""])).map String.toList) := by
  rw [List.map_cons, joinLines_cons_flatMap]
  simp [introSketches, written, writtenAll, writtenAll_append, writtenAll_flatMap,
    written_importSketch, written_paddingSketch, List.flatMap_map]

/-- **The sketch of the script** is a sketch of its text. -/
theorem written_suiteSketches (name : String) (n m : Nat) :
    writtenAll (suiteSketches name n m) = (suiteText name n m).toList := by
  obtain ⟨first, rest, htest⟩ : ∃ first rest, testLines name m = first :: rest := ⟨_, _, rfl⟩
  rw [toList_suiteText, suiteSketches, writtenAll_append, written_introSketches, writtenAll,
    written_testSketch, suiteLines, htest, List.cons_append, List.map_cons, List.map_cons,
    List.map_cons, joinLines_cons_flatMap, joinLines_cons_flatMap, joinLines_cons_flatMap]
  simp [written, writtenAll]

/-! ## Lines without breaks -/

/-- A text that holds no break and no dollar sign, with which the default marker starts. -/
def Tame (s : String) : Prop := ∀ c ∈ s.toList, c ∉ ['\n', '\r', '$']

instance : DecidablePred Tame := fun s =>
  List.decidableBAll (fun c => c ∉ ['\n', '\r', '$']) s.toList

theorem tame_join {ss : List String} (h : ∀ s ∈ ss, Tame s) : Tame (.join ss) := by
  intro c hc
  rw [String.toList_join] at hc
  obtain ⟨s, hs, hc⟩ := List.mem_flatMap.mp hc
  exact h s hs c hc

/-- A text of lower-case letters and digits. -/
def LettersAndDigits (s : String) : Prop := ∀ c ∈ s.toList, c.isLower ∨ c.isDigit

instance : DecidablePred LettersAndDigits := fun s =>
  List.decidableBAll (fun c : Char => c.isLower ∨ c.isDigit) s.toList

theorem tame_of_lettersAndDigits {s : String} (h : LettersAndDigits s) : Tame s := by
  intro c hc hmem
  simp only [List.mem_cons, List.not_mem_nil, or_false] at hmem
  have hc := h c hc
  rcases hmem with rfl | rfl | rfl <;> exact absurd hc (by decide)

theorem tame_toString (i : Nat) : Tame (toString i) := by
  refine tame_of_lettersAndDigits fun c hc => .inr ?_
  rw [Nat.toString_eq_repr, Nat.toList_repr] at hc
  exact Nat.isDigit_of_mem_toDigits (by decide) (by decide) hc

theorem tame_paddingLine (i : Nat) : Tame (paddingLine i) := by
  refine tame_join ?_
  simp only [List.forall_mem_cons, List.not_mem_nil, false_imp_iff, implies_true, and_true]
  exact ⟨by decide, tame_toString i, by decide, tame_toString i, by decide⟩

theorem tame_bodyLine (i : Nat) : Tame (bodyLine i) := by
  refine tame_join ?_
  simp only [List.forall_mem_cons, List.not_mem_nil, false_imp_iff, implies_true, and_true]
  exact ⟨by decide, tame_toString i, by decide, tame_toString i, by decide⟩

theorem tame_openingLine {name : String} (hname : LettersAndDigits name) :
    Tame (openingLine name) := by
  refine tame_join ?_
  simp only [List.forall_mem_cons, List.not_mem_nil, false_imp_iff, implies_true, and_true]
  exact ⟨by decide, tame_of_lettersAndDigits hname, by decide⟩

theorem tame_of_mem_testLines {name : String} (hname : LettersAndDigits name)
    {m : Nat} {l : String} (hl : l ∈ testLines name m) : Tame l := by
  simp only [testLines, List.mem_cons, List.mem_append, List.mem_map, List.mem_range,
    List.not_mem_nil, or_false] at hl
  obtain rfl | ⟨i, -, rfl⟩ | rfl := hl
  · exact tame_openingLine hname
  · exact tame_bodyLine i
  · decide

theorem tame_of_mem_introLines {n : Nat} {l : String}
    (hl : l ∈ importLine :: ((List.range n).map paddingLine ++ [""])) : Tame l := by
  simp only [List.mem_cons, List.mem_append, List.mem_map, List.mem_range, List.not_mem_nil,
    or_false] at hl
  obtain rfl | ⟨i, -, rfl⟩ | rfl := hl
  · decide
  · exact tame_paddingLine i
  · decide

theorem tame_of_mem_suiteLines {name : String} (hname : LettersAndDigits name)
    {n m : Nat} {l : String} (hl : l ∈ suiteLines name n m ++ [""]) : Tame l := by
  simp only [suiteLines, List.cons_append, List.append_assoc, List.mem_cons, List.mem_append,
    List.not_mem_nil, or_false] at hl
  obtain rfl | hl | hl | rfl := hl
  · decide
  · obtain ⟨i, -, rfl⟩ := List.mem_map.mp hl
    exact tame_paddingLine i
  · exact tame_of_mem_testLines hname hl
  · decide

theorem lineFeed_notMem_of_tame {ls : List String} (h : ∀ l ∈ ls, Tame l) :
    ∀ l ∈ ls.map String.toList, '\n' ∉ l := by
  intro l hl hmem
  obtain ⟨s, hs, rfl⟩ := List.mem_map.mp hl
  exact h s hs _ hmem (by decide)

/-! ## What the tree declares -/

theorem isPlain_quotedString (fields : List String) (text : String) :
    isPlain (quotedString fields text) = true := by
  by_cases h : text = "" <;> simp [quotedString, h, isPlain, arePlain, token]

theorem quiet_paddingSketch (i : Nat) : Quiet (paddingSketch i) := by
  refine quiet_node (by decide) (by decide) ?_
  rw [List.forall_mem_cons, List.forall_mem_cons, List.forall_mem_cons]
  exact ⟨quiet_of_isPlain rfl, quiet_of_isPlain rfl, quiet_numberBinding _ _, quiet_of_arePlain rfl⟩

theorem quiet_bodySketch (i : Nat) : Quiet (bodySketch i) := by
  have hhelper : ∀ s ∈ [nameCall [] "helper" [numberArgument i]], Quiet s := by
    rw [List.forall_mem_singleton]
    exact quiet_nameCall (by decide) (quiet_of_arePlain rfl)
  refine quiet_node (by decide) (by decide) ?_
  rw [List.forall_mem_cons]
  exact ⟨quiet_memberCall (by decide) hhelper (quiet_of_arePlain rfl), quiet_of_arePlain rfl⟩

/-- The lines of the test declare nothing. -/
theorem quiet_blockSketch (m : Nat) : Quiet (blockSketch m) := by
  refine quiet_node (by decide) (by decide) ?_
  rw [List.forall_mem_cons, List.forall_mem_append]
  refine ⟨quiet_of_isPlain rfl, fun s hs => ?_, quiet_of_arePlain rfl⟩
  obtain ⟨i, -, hs⟩ := List.mem_flatMap.mp hs
  rcases List.mem_pair.mp hs with rfl | rfl
  · exact quiet_of_isPlain rfl
  · exact quiet_bodySketch i

theorem quiet_testArguments (name : String) (m : Nat) : ∀ s ∈ testArguments name m, Quiet s := by
  have hfunction : Quiet (.node "arrow_function" []
      [.node "formal_parameters" ["parameters"] [token "(", token ")"], .gap " ", token "=>",
        .gap " ", blockSketch m]) := by
    refine quiet_node (by decide) (by decide) ?_
    rw [List.forall_mem_cons, List.forall_mem_cons, List.forall_mem_cons, List.forall_mem_cons,
      List.forall_mem_singleton]
    exact ⟨quiet_of_isPlain rfl, quiet_of_isPlain rfl, quiet_of_isPlain rfl, quiet_of_isPlain rfl,
      quiet_blockSketch m⟩
  rw [testArguments, List.forall_mem_cons, List.forall_mem_cons, List.forall_mem_cons,
    List.forall_mem_singleton]
  exact ⟨quiet_of_isPlain (isPlain_quotedString [] name), quiet_of_isPlain rfl,
    quiet_of_isPlain rfl, hfunction⟩

/-- What comes before the test declares nothing. -/
theorem quiet_introSketches (n : Nat) : ∀ s ∈ introSketches n, Quiet s := by
  rw [introSketches, List.forall_mem_cons, List.forall_mem_append]
  refine ⟨quiet_of_isPlain (by decide), fun s hs => ?_, quiet_of_arePlain rfl⟩
  obtain ⟨i, -, hs⟩ := List.mem_flatMap.mp hs
  rcases List.mem_pair.mp hs with rfl | rfl
  · exact quiet_of_isPlain rfl
  · exact quiet_paddingSketch i

section Declarations

variable {name : String} {n m : Nat}

theorem count_testSketch (hname : LettersAndDigits name) :
    (testSketch name m).written.count '\n' = m + 1 := by
  have hcount := count_joinLines
    (lineFeed_notMem_of_tame fun l hl => tame_of_mem_testLines (m := m) hname hl)
    (by simp [testLines])
  rw [← written_testSketch] at hcount
  simp only [testLines, List.length_map, List.length_cons, List.length_append, List.length_range,
    List.length_nil] at hcount
  omega

theorem count_introSketches (n : Nat) : (writtenAll (introSketches n)).count '\n' = n + 1 := by
  have hcount := count_joinLines
    (lineFeed_notMem_of_tame fun l hl => tame_of_mem_introLines (n := n) hl) (by simp)
  rw [← written_introSketches] at hcount
  simp only [List.length_map, List.length_cons, List.length_append, List.length_range,
    List.length_nil] at hcount
  omega

theorem declarationsOf_testSketch (hname : LettersAndDigits name)
    {text : String} {p : Point} (hstands : Stands text p (testSketch name m).written) :
    declarationsOf text ((testSketch name m).drawn p) =
      [(.testCall, p.row + 1, p.row + m + 2)] := by
  have hcount := count_testSketch (m := m) hname
  have hwritten : (testSketch name m).written =
      (nameCall [] "it" (testArguments name m)).written ++ ";".toList := rfl
  have hsemicolon : (";".toList).count '\n' = 0 := rfl
  rw [hwritten, List.count_append, hsemicolon] at hcount
  rw [hwritten] at hstands
  obtain ⟨hcall, hrest⟩ := stands_append.mp hstands
  rw [testSketch, declarationsOf_node (by decide) (by decide), drawnAll, declarationsOf_append,
    declarationsOf_nameCall (quiet_testArguments name m) hcall, if_pos (by decide), Point.row_past,
    declarationsOf_drawnAll (quiet_of_arePlain rfl) hrest, List.append_nil, List.singleton_inj,
    Prod.mk.injEq, Prod.mk.injEq]
  exact ⟨rfl, rfl, by omega⟩

theorem stands_suiteSketches (name : String) (n m : Nat) :
    Stands (suiteText name n m) textStart (writtenAll (suiteSketches name n m)) := by
  rw [written_suiteSketches]
  exact List.prefix_rfl

/-- The test stands where it starts. -/
theorem stands_testSketch (name : String) (n m : Nat) :
    Stands (suiteText name n m) (testStart n) (testSketch name m).written := by
  have hstands := stands_suiteSketches name n m
  rw [suiteSketches, writtenAll_append] at hstands
  exact (stands_append.mp (stands_append.mp hstands).2).1

/-- **The script declares the test** and nothing else. -/
theorem declarationsOf_suite (hname : LettersAndDigits name) :
    declarationsOf (suiteText name n m) (drawnAll textStart (suiteSketches name n m)) =
      [(.testCall, n + 2, n + m + 3)] := by
  have hstands := stands_suiteSketches name n m
  rw [suiteSketches, writtenAll_append] at hstands
  obtain ⟨hintro, hrest⟩ := stands_append.mp hstands
  have hrow : (testStart n).row = n + 1 := by
    rw [testStart, Point.row_past, count_introSketches]
    exact Nat.zero_add _
  have htest := declarationsOf_testSketch hname (stands_testSketch name n m)
  rw [hrow, testStart] at htest
  rw [suiteSketches, drawnAll_append, declarationsOf_append,
    declarationsOf_drawnAll (quiet_introSketches n) hintro, List.nil_append, drawnAll,
    declarationsOf_append, htest,
    declarationsOf_drawnAll (quiet_of_arePlain rfl) (stands_append.mp hrest).2, List.append_nil,
    List.singleton_inj, Prod.mk.injEq, Prod.mk.injEq]
  exact ⟨rfl, rfl, by omega⟩

end Declarations

/-! ## How deep it is -/

theorem height_le_of_mem_introSketches {n : Nat} {s : Sketch} (hs : s ∈ introSketches n) :
    s.height ≤ 6 := by
  simp only [introSketches, List.mem_cons, List.mem_append, List.mem_flatMap, List.not_mem_nil,
    or_false] at hs
  obtain rfl | ⟨i, -, rfl | rfl⟩ | rfl := hs
  · decide
  · decide
  · exact Nat.le_of_ble_eq_true rfl
  · decide

theorem height_quotedString_le (fields : List String) (text : String) :
    (quotedString fields text).height ≤ 2 := by
  by_cases h : text = "" <;> simp [quotedString, h, height, heightAll, token]

theorem height_blockSketch_le (m : Nat) : (blockSketch m).height ≤ 10 := by
  rw [blockSketch, height]
  refine Nat.succ_le_succ (heightAll_le fun s hs => ?_)
  simp only [List.mem_cons, List.mem_append, List.mem_flatMap, List.not_mem_nil, or_false] at hs
  obtain rfl | ⟨i, -, rfl | rfl⟩ | rfl | rfl := hs
  · decide
  · decide
  · exact Nat.le_of_ble_eq_true rfl
  · decide
  · decide

theorem height_testSketch_le (name : String) (m : Nat) : (testSketch name m).height ≤ 14 := by
  have hstring := height_quotedString_le [] name
  have hblock := height_blockSketch_le m
  simp only [testSketch, nameCall, callOf, argumentList, testArguments, token, height, heightAll,
    List.cons_append, List.nil_append]
  omega

/-- **The tree is not too deep**, however long the script is. -/
theorem level_le_of_mem_suiteTree {name : String} {n m : Nat} {x : Nat × Concrete}
    (hx : x ∈ (suiteTree name n m).preorder 0) : x.1 ≤ maxNesting := by
  have hheight : heightAll (suiteSketches name n m) ≤ 14 := by
    refine heightAll_le fun s hs => ?_
    simp only [suiteSketches, List.mem_append, List.mem_cons, List.not_mem_nil, or_false] at hs
    obtain hs | rfl | rfl := hs
    · exact Nat.le_trans (height_le_of_mem_introSketches hs) (by decide)
    · exact height_testSketch_le name m
    · decide
  rw [suiteTree, Concrete.preorder] at hx
  rcases List.mem_cons.mp hx with rfl | hx
  · exact Nat.zero_le _
  · have hlevel := level_lt_of_mem_preorderAll_drawnAll hx
    rw [maxNesting]
    omega

end TestLocator.Locating
