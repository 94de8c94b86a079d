import TestLocator.Proofs.Parsing.TreeOrder
import TestLocator.Proofs.Syntax.Acceptance

/-!
# The first fault of a tree

The search for a fault goes only into children that are marked as having errors. Where every node
that holds a faulty one is marked, it passes over nothing.

* `Faulty`, `faultOf` — the nodes that are missing or unexpected, and what is reported of them;
* `MarksFaults` — every node in which something is faulty is marked;
* `fullSearch`, `fullSearch_eq` — the search that goes into all children finds the first faulty
  node, marked or not;
* `firstFault_eq_fullSearch` — with right marks both searches find the same;
* **`firstFault_first`** — what is found in a tree, and what becomes of the text.
-/

namespace TestLocator.Syntax

open TestLocator.Parsing TestLocator.Parsing.Concrete

variable {src : Source} {n root : Concrete} {cs : List Concrete}

/-! ## Faulty nodes -/

/-- A node is faulty: the text lacks it, or its text fits nowhere. -/
def Faulty (n : Concrete) : Prop := n.data.missing = true ∨ n.data.unexpected = true

instance : DecidablePred Faulty := fun n =>
  inferInstanceAs (Decidable (n.data.missing = true ∨ n.data.unexpected = true))

/-- What is reported of a faulty node, at its start. -/
def faultOf (src : Source) (n : Concrete) : Fault :=
  .atNode (if n.data.missing then .missing n.kind else .unexpected (snippet (n.text src))) n

/-- Every node of a tree in which there is a faulty node is marked. -/
def MarksFaults (root : Concrete) : Prop :=
  ∀ n ∈ root.nodes, ∀ m ∈ n.nodes, Faulty m → n.data.hasError = true

instance : DecidablePred MarksFaults := fun root =>
  inferInstanceAs (Decidable (∀ n ∈ root.nodes, ∀ m ∈ n.nodes, Faulty m → n.data.hasError = true))

theorem ownFault_eq (src : Source) (n : Concrete) :
    ownFault src n = if Faulty n then some (faultOf src n) else none := by
  unfold ownFault faultOf Faulty
  by_cases hmissing : n.data.missing = true
  · simp [hmissing]
  · simp [hmissing]

theorem MarksFaults.of_mem (h : MarksFaults root) (hn : n ∈ root.nodes) : MarksFaults n :=
  fun m hm => h m (nodes_subset_of_mem hn hm)

theorem MarksFaults.child {c : Concrete} (h : MarksFaults n) (hc : c ∈ n.children) :
    MarksFaults c :=
  h.of_mem (mem_nodes_of_mem_children hc)

theorem MarksFaults.not_faulty (h : MarksFaults n) (hmark : n.data.hasError = false) :
    ∀ m ∈ n.nodes, ¬ Faulty m := by
  intro m hm hfaulty
  rw [h n n.mem_nodes_self m hm hfaulty] at hmark
  cases hmark

/-! ## The search that passes over nothing -/

mutual

/-- The first fault in a tree, whatever is marked. -/
def fullSearch (src : Source) : Concrete → Option Fault
  | .node d cs =>
    match ownFault src (.node d cs) with
    | some f => some f
    | none => fullSearchAmong src cs

/-- The first fault in some trees, whatever is marked. -/
def fullSearchAmong (src : Source) : List Concrete → Option Fault
  | [] => none
  | c :: cs =>
    match fullSearch src c with
    | some f => some f
    | none => fullSearchAmong src cs

end

theorem fullSearch_of_own (src : Source) (n : Concrete) :
    fullSearch src n = (ownFault src n).or (fullSearchAmong src n.children) := by
  cases n with
  | node d cs => rw [fullSearch]; cases ownFault src (.node d cs) <;> rfl

theorem fullSearchAmong_eq
    (h : ∀ c ∈ cs, fullSearch src c = (c.nodes.find? (Faulty ·)).map (faultOf src)) :
    fullSearchAmong src cs = ((nodesAll cs).find? (Faulty ·)).map (faultOf src) := by
  induction cs with
  | nil => rfl
  | cons c cs ih =>
    rw [fullSearchAmong, h c List.mem_cons_self, ih fun d hd => h d (List.mem_cons_of_mem _ hd),
      nodesAll_cons, List.find?_append]
    cases c.nodes.find? (Faulty ·) <;> rfl

/-- **The full search finds the first faulty node**, in the order of the tree. -/
theorem fullSearch_eq (src : Source) (n : Concrete) :
    fullSearch src n = (n.nodes.find? (Faulty ·)).map (faultOf src) := by
  induction n using inductionOnSize with
  | h n ih =>
    rw [fullSearch_of_own, fullSearchAmong_eq fun c hc => ih c (size_lt_of_mem_children hc),
      ownFault_eq, nodes_eq, List.find?_cons]
    by_cases hfaulty : Faulty n <;> simp [hfaulty]

theorem fullSearch_eq_none_iff : fullSearch src n = none ↔ ∀ m ∈ n.nodes, ¬ Faulty m := by
  rw [fullSearch_eq, Option.map_eq_none_iff, List.find?_eq_none]
  simp

/-! ## The search by marks -/

theorem firstFault_of_own (src : Source) (n : Concrete) :
    firstFault src n = (ownFault src n).or (firstFaultAmong src n.children) := by
  cases n with
  | node d cs => rw [firstFault]; cases ownFault src (.node d cs) <;> rfl

theorem firstFaultAmong_eq_fullSearchAmong (hmarks : ∀ c ∈ cs, MarksFaults c)
    (h : ∀ c ∈ cs, firstFault src c = fullSearch src c) :
    firstFaultAmong src cs = fullSearchAmong src cs := by
  induction cs with
  | nil => rfl
  | cons c cs ih =>
    have hrest : firstFaultAmong src cs = fullSearchAmong src cs :=
      ih (fun d hd => hmarks d (List.mem_cons_of_mem _ hd))
        fun d hd => h d (List.mem_cons_of_mem _ hd)
    rw [firstFaultAmong, fullSearchAmong, h c List.mem_cons_self, hrest]
    cases hmark : c.data.hasError with
    | true => rfl
    | false =>
      have hnone : fullSearch src c = none :=
        fullSearch_eq_none_iff.mpr ((hmarks c List.mem_cons_self).not_faulty hmark)
      rw [if_neg Bool.false_ne_true, hnone]

/-- **Passing over what is not marked loses nothing.** -/
theorem firstFault_eq_fullSearch (h : MarksFaults n) : firstFault src n = fullSearch src n := by
  induction n using inductionOnSize with
  | h n ih =>
    have hchildren : firstFaultAmong src n.children = fullSearchAmong src n.children :=
      firstFaultAmong_eq_fullSearchAmong (fun _ hc => h.child hc) fun c hc =>
        ih c (size_lt_of_mem_children hc) (h.child hc)
    rw [firstFault_of_own, fullSearch_of_own, hchildren]

/-! ## What is reported -/

theorem message_eq_invalid_iff (f : Fault) : f.message = "invalid syntax" ↔ f.cause = .unknown := by
  obtain ⟨cause, line, column⟩ := f
  -- the other wordings begin with other letters
  cases cause with
  | unknown => simp [Fault.message]
  | missing kind | unexpected snippet => simp [Fault.message, ← String.toList_inj]
  | nesting limit =>
    have hstart : (toString "nesting deeper than ").toList = "nesting deeper than ".toList := rfl
    simp [Fault.message, ← String.toList_inj, hstart]

theorem faultOf_ne_unknown (src : Source) (n : Concrete) : (faultOf src n).cause ≠ .unknown := by
  unfold faultOf Fault.atNode
  split_ifs <;> exact FaultCause.noConfusion

theorem message_faultOf (src : Source) (n : Concrete) :
    (faultOf src n).message =
      (if n.data.missing then "missing `" ++ n.kind ++ "`"
        else "unexpected `" ++ snippet (n.text src) ++ "`") ++
        s!" at line {n.data.start.row + 1}, column {n.data.start.column + 1}" := by
  unfold faultOf Fault.atNode Fault.message
  split_ifs <;> rfl

theorem ofConcrete_of_hasError {language : Language}
    (hlevels : ∀ x ∈ root.preorder 0, x.1 ≤ maxNesting) (herror : root.data.hasError = true) :
    SyntaxTree.ofConcrete language src root =
      .error ((firstFault src root).getD ⟨.unknown, 1, 1⟩) := by
  simp only [SyntaxTree.ofConcrete, Cursor.firstDeeperThan_eq_none_iff.mpr hlevels, herror, if_true]

/-- **The first fault** of a tree is found where faults are marked, and is what rejects it. -/
theorem firstFault_first (src : Source) (root : Concrete) (h : MarksFaults root) :
    (∀ before n after, root.nodes = before ++ n :: after → (∀ m ∈ before, ¬ Faulty m) →
      Faulty n → ∃ f, firstFault src root = some f ∧
        f.line = n.data.start.row + 1 ∧ f.column = n.data.start.column + 1 ∧
        f.message = (if n.data.missing then "missing `" ++ n.kind ++ "`"
          else "unexpected `" ++ snippet (n.text src) ++ "`") ++
            s!" at line {n.data.start.row + 1}, column {n.data.start.column + 1}") ∧
    (firstFault src root = none ↔ ∀ n ∈ root.nodes, ¬ Faulty n) ∧
    (∀ n ∈ root.nodes, firstFault src n = fullSearch src n) ∧
    ∀ language, (∀ x ∈ root.preorder 0, x.1 ≤ maxNesting) →
      (root.data.hasError = true → ∃ f, SyntaxTree.ofConcrete language src root = .error f ∧
        (∀ g, firstFault src root = some g → f = g) ∧
        (f.message = "invalid syntax" → f = ⟨.unknown, 1, 1⟩ ∧ ∀ n ∈ root.nodes, ¬ Faulty n)) ∧
      ∀ text, src = .ofString text →
        Script.concreteTree language src (maxNesting + 1) = some root →
        SyntaxTree.ofText language text = SyntaxTree.ofConcrete language src root := by
  have hfirst : firstFault src root = (root.nodes.find? (Faulty ·)).map (faultOf src) := by
    rw [firstFault_eq_fullSearch h, fullSearch_eq]
  have hnone : firstFault src root = none ↔ ∀ n ∈ root.nodes, ¬ Faulty n := by
    rw [firstFault_eq_fullSearch h, fullSearch_eq_none_iff]
  refine ⟨fun before n after hnodes hbefore hn => ?_, hnone,
    fun n hn => firstFault_eq_fullSearch (h.of_mem hn),
    fun language hlevels => ⟨fun herror => ?_, ?_⟩⟩
  · have hskip : before.find? (Faulty ·) = none := by
      rw [List.find?_eq_none]
      simpa using hbefore
    refine ⟨faultOf src n, ?_, rfl, rfl, message_faultOf src n⟩
    rw [hfirst, hnodes, List.find?_append, hskip, Option.none_or,
      List.find?_cons_of_pos (by simpa using hn), Option.map_some]
  · refine ⟨_, ofConcrete_of_hasError hlevels herror, ?_, ?_⟩
    · intro g hg
      rw [hg, Option.getD_some]
    · rw [message_eq_invalid_iff]
      cases hfound : firstFault src root with
      | none => exact fun _ => ⟨rfl, hnone.mp hfound⟩
      | some f =>
        -- what is found is the fault of a node, which has its place
        rw [hfirst, Option.map_eq_some_iff] at hfound
        obtain ⟨n, -, rfl⟩ := hfound
        exact fun hunknown => absurd hunknown (faultOf_ne_unknown src n)
  · rintro text rfl htree
    rw [SyntaxTree.ofText, htree]

/-- A text in which two brackets are missing. -/
def openSource : Source := .ofString "f;\ng(x;\nif (a {b}\n"

/-- A node of that text. -/
def openNode (kind : String) (hasError : Bool) (start stop : Nat × Nat) (children : List Concrete) :
    Concrete :=
  .node { kind, hasError, start := place start, stop := place stop } children
where
  /-- A place by its line and its column. -/
  place (p : Nat × Nat) : Point := ⟨[0, 3, 8].getD p.1 18 + p.2, p.1, p.2⟩

/-- A bracket that is missing. -/
def openBracket (start : Nat × Nat) : Concrete :=
  .node { kind := ")", named := false, missing := true, hasError := true
          start := openNode.place start, stop := openNode.place start } []

/-- The tree of that text without the nodes that have no name and are not missing. -/
def openTree : Concrete :=
  openNode "program" true (0, 0) (3, 0)
    [openNode "expression_statement" false (0, 0) (0, 2)
      [openNode "identifier" false (0, 0) (0, 1) []],
    openNode "expression_statement" true (1, 0) (1, 4)
      [openNode "call_expression" true (1, 0) (1, 3)
        [openNode "identifier" false (1, 0) (1, 1) [],
          openNode "arguments" true (1, 1) (1, 3)
            [openNode "identifier" false (1, 2) (1, 3) [], openBracket (1, 3)]]],
    openNode "if_statement" true (2, 0) (2, 9)
      [openNode "parenthesized_expression" true (2, 3) (2, 5)
        [openNode "identifier" false (2, 4) (2, 5) [], openBracket (2, 5)],
        openNode "statement_block" false (2, 6) (2, 9) []]]

/-- Of the two brackets the one of the call is reported. -/
theorem firstFault_first_open :
    MarksFaults openTree ∧ (∀ x ∈ openTree.preorder 0, x.1 ≤ maxNesting) ∧
    ∃ f, SyntaxTree.ofConcrete .javaScript openSource openTree = .error f ∧
      f.message = "missing `)` at line 2, column 4" := by
  have hmarks : MarksFaults openTree := by decide +kernel
  have hlevels : ∀ x ∈ openTree.preorder 0, x.1 ≤ maxNesting := by decide +kernel
  obtain ⟨hfirst, -, -, hrejects⟩ := firstFault_first openSource openTree hmarks
  have hbefore : ∀ m ∈ openTree.nodes.take 8, ¬ Faulty m := by decide +kernel
  obtain ⟨f, hf, -, -, hmessage⟩ := hfirst (openTree.nodes.take 8) (openBracket (1, 3))
    (openTree.nodes.drop 9) rfl hbefore (.inl rfl)
  obtain ⟨g, hg, hsame, -⟩ := (hrejects .javaScript hlevels).1 rfl
  exact ⟨hmarks, hlevels, g, hg, hsame f hf ▸ hmessage⟩

end TestLocator.Syntax
