import TestLocator.Locating.Search
import TestLocator.Proofs.Syntax.Levels

/-!
# How deep the recursion goes

Reading a fault off a tree, lowering a tree and searching one all recurse once a level. Here they
are given only so many calls inside one another, and nothing comes of them when these run out. A
tree that is not too deep needs no more calls than there are levels.

* `firstFaultWithin`, `lowerWithin`, `findBelowWithin` — the functions with so many calls;
* `firstFaultWithin_eq`, `lowerWithin_eq`, `findBelowWithin_eq` — with a call for every level they
  are the functions themselves;
* **`recursion_bounded`** — a tree that is too deep is rejected before any of them runs, and of
  every other tree none of them goes deeper than the limit;
* `tower` — a tree as deep as one likes.
-/

namespace TestLocator.Locating

open TestLocator.Parsing TestLocator.Syntax

/-! ## Functions with so many calls -/

/-- The first fault in a tree, if the calls suffice to find out. -/
def firstFaultWithin (src : Source) : Nat → Concrete → Option (Option Fault)
  | 0, _ => none
  | calls + 1, n =>
    match ownFault src n with
    | some f => some (some f)
    | none => (n.children.filter (·.data.hasError)).findSomeM? (firstFaultWithin src calls)

/-- The syntax node of a concrete node, if the calls suffice to make it. -/
def lowerWithin (src : Source) : Nat → Concrete → Option Node
  | 0, _ => none
  | calls + 1, n =>
    let parts := n.parts.mapM (lowerWithin src calls)
    let other := parts.map (.other (spanOf n) n.kind)
    match n.kind with
    | "call_expression" =>
      match n.child? "function" with
      | none => other
      | some callee => do
        let arguments ← (keptArguments n).mapM (lowerWithin src calls)
        return .call (spanOf n) (← lowerWithin src calls callee) arguments
    | "member_expression" =>
      match n.child? "object" with
      | none => other
      | some object => do
        let property := (n.child? "property").map (·.text src)
        return .member (spanOf n) (← lowerWithin src calls object) property
    | "identifier" => some (.identifier (spanOf n) (n.text src))
    | "variable_declarator" =>
      match n.child? "name" with
      | none => other
      | some name => do
        let init ← ((n.child? "value").map unwrap).mapM (lowerWithin src calls)
        return .declarator (spanOf n) (← lowerWithin src calls name) init
    | "function_expression" | "function" | "generator_function" =>
      parts.map (.function (spanOf n) .expression)
    | "arrow_function" => parts.map (.function (spanOf n) .arrow)
    | _ => other

/-- The first test in a node that encloses a line, if the calls suffice to find out. -/
def findBelowWithin (d : Document) (line : Nat) : Nat → Node → Option (Option TestBlock)
  | 0, _ => none
  | calls + 1, n =>
    match ownBlock d line n with
    | some b => some (some b)
    | none => n.children.findSomeM? (findBelowWithin d line calls)

/-! ## Calls that suffice for each of some nodes -/

variable {α β : Type} {xs : List α}

theorem mapM_eq_some_map {f : α → Option β} {g : α → β} (h : ∀ x ∈ xs, f x = some (g x)) :
    xs.mapM f = some (xs.map g) := by
  induction xs with
  | nil => rfl
  | cons x xs ih =>
    rw [List.mapM_cons, h x List.mem_cons_self, ih fun y hy => h y (List.mem_cons_of_mem _ hy)]
    rfl

theorem findSomeM?_eq_some_findSome? {f : α → Option (Option β)} {g : α → Option β}
    (h : ∀ x ∈ xs, f x = some (g x)) : xs.findSomeM? f = some (xs.findSome? g) := by
  induction xs with
  | nil => rfl
  | cons x xs ih =>
    rw [List.findSomeM?_cons, h x List.mem_cons_self, List.findSome?_cons,
      ih fun y hy => h y (List.mem_cons_of_mem _ hy)]
    cases g x <;> rfl

theorem firstFaultAmong_eq_findSome? (src : Source) (cs : List Concrete) :
    firstFaultAmong src cs = (cs.filter (·.data.hasError)).findSome? (firstFault src) := by
  induction cs with
  | nil => rfl
  | cons c cs ih =>
    rw [firstFaultAmong, List.filter_cons, ih]
    by_cases h : c.data.hasError
    · rw [if_pos h, if_pos h, List.findSome?_cons]
      cases firstFault src c <;> rfl
    · rw [if_neg h, if_neg h]

theorem findAmong_eq_findSome? (d : Document) (line : Nat) (ns : List Node) :
    findAmong d line ns = ns.findSome? (findBelow d line) := by
  induction ns with
  | nil => rw [findAmong]; rfl
  | cons n ns ih =>
    rw [findAmong, ih, List.findSome?_cons]
    cases findBelow d line n <;> rfl

/-! ## A call for every level -/

variable {src : Source} {n : Concrete} {calls depth : Nat}

theorem firstFaultWithin_succ
    (h : ∀ c ∈ Concrete.nodesAll n.children,
      firstFaultWithin src calls c = some (firstFault src c)) :
    firstFaultWithin src (calls + 1) n = some (firstFault src n) := by
  have hbelow : ∀ c ∈ n.children.filter (·.data.hasError),
      firstFaultWithin src calls c = some (firstFault src c) := fun c hc =>
    h c (Concrete.mem_nodesAll.mpr ⟨c, (List.mem_filter.mp hc).1, c.mem_nodes_self⟩)
  cases n with
  | node d cs =>
    rw [firstFaultWithin, firstFault, firstFaultAmong_eq_findSome?]
    cases ownFault src (.node d cs) with
    | some f => rfl
    | none => exact findSomeM?_eq_some_findSome? hbelow

theorem firstFaultWithin_eq (h : ∀ x ∈ n.preorder depth, x.1 < depth + calls) :
    firstFaultWithin src calls n = some (firstFault src n) := by
  refine Concrete.inductionOnLevels
    (P := fun k n => firstFaultWithin src k n = some (firstFault src n)) (fun k m hm => ?_) h
  exact firstFaultWithin_succ hm

theorem mapM_lowerWithin {cs : List Concrete}
    (h : ∀ c ∈ cs, lowerWithin src calls c = some (lower src c)) :
    cs.mapM (lowerWithin src calls) = some (lowerAll src cs) := by
  rw [lowerAll_eq_map]
  exact mapM_eq_some_map h

theorem lowerWithin_function (hkind : n.kind ∈ functionKinds)
    (hparts : n.parts.mapM (lowerWithin src calls) = some (lowerAll src n.parts)) :
    lowerWithin src (calls + 1) n = some (lower src n) := by
  simp only [functionKinds, List.mem_cons, List.not_mem_nil, or_false] at hkind
  rw [lowerWithin, lower]
  rcases hkind with h | h | h | h <;> simp only [h, hparts, Option.map_some]

theorem lowerWithin_other (hcall : n.kind = "call_expression" → n.child? "function" = none)
    (hmember : n.kind = "member_expression" → n.child? "object" = none)
    (hidentifier : n.kind ≠ "identifier")
    (hdeclarator : n.kind = "variable_declarator" → n.child? "name" = none)
    (hfunction : n.kind ∉ functionKinds)
    (hparts : n.parts.mapM (lowerWithin src calls) = some (lowerAll src n.parts)) :
    lowerWithin src (calls + 1) n = some (.other (spanOf n) n.kind (lowerAll src n.parts)) := by
  simp only [functionKinds, List.mem_cons, List.not_mem_nil, or_false, not_or] at hfunction
  simp only [lowerWithin, hparts, Option.map_some]
  split <;> rename_i hkind
  · rw [hcall hkind]
  · rw [hmember hkind]
  · exact absurd hkind hidentifier
  · rw [hdeclarator hkind]
  · exact absurd hkind hfunction.1
  · exact absurd hkind hfunction.2.1
  · exact absurd hkind hfunction.2.2.1
  · exact absurd hkind hfunction.2.2.2
  · rfl

theorem lowerWithin_succ
    (h : ∀ c ∈ Concrete.nodesAll n.children, lowerWithin src calls c = some (lower src c)) :
    lowerWithin src (calls + 1) n = some (lower src n) := by
  have hparts : n.parts.mapM (lowerWithin src calls) = some (lowerAll src n.parts) :=
    mapM_lowerWithin fun c hc => h c (mem_nodesAll_of_mem_parts hc)
  have hchild : ∀ {field c}, n.child? field = some c →
      lowerWithin src calls c = some (lower src c) :=
    fun hc => h _ (Concrete.mem_nodesAll_of_child? hc)
  by_cases hfunction : n.kind ∈ functionKinds
  · exact lowerWithin_function hfunction hparts
  have hshape := shape_lower src n
  generalize lower src n = m at hshape
  cases hshape with
  | call hkind hcallee =>
    have harguments : (keptArguments n).mapM (lowerWithin src calls) =
        some (lowerAll src (keptArguments n)) :=
      mapM_lowerWithin fun c hc => h c (mem_nodesAll_of_mem_keptArguments hc)
    simp [lowerWithin, hkind, hcallee, harguments, hchild hcallee]
  | member hkind hobject => simp [lowerWithin, hkind, hobject, hchild hobject]
  | identifier hkind => simp [lowerWithin, hkind]
  | declarator hkind hname =>
    cases hvalue : n.child? "value" with
    | none => simp [lowerWithin, hkind, hname, hvalue, hchild hname]
    | some value =>
      have hinit : lowerWithin src calls (unwrap value) = some (lower src (unwrap value)) :=
        h _ (mem_nodesAll_children_trans (Concrete.mem_nodesAll_of_child? hvalue)
          (unwrap_mem_nodes value))
      simp [lowerWithin, hkind, hname, hvalue, hchild hname, hinit]
  | function hkind => exact absurd hkind hfunction
  | other hcall hmember hidentifier hdeclarator _ =>
    exact lowerWithin_other hcall hmember hidentifier hdeclarator hfunction hparts

theorem lowerWithin_eq (h : ∀ x ∈ n.preorder depth, x.1 < depth + calls) :
    lowerWithin src calls n = some (lower src n) := by
  refine Concrete.inductionOnLevels
    (P := fun k n => lowerWithin src k n = some (lower src n)) (fun k m hm => ?_) h
  exact lowerWithin_succ hm

theorem findBelowWithin_succ {d : Document} {line : Nat} {n : Node}
    (h : ∀ c ∈ n.children, findBelowWithin d line calls c = some (findBelow d line c)) :
    findBelowWithin d line (calls + 1) n = some (findBelow d line n) := by
  rw [findBelowWithin, findBelow, findAmong_eq_findSome?]
  cases ownBlock d line n with
  | some b => rfl
  | none => exact findSomeM?_eq_some_findSome? h

theorem findBelowWithin_eq {d : Document} {line : Nat} {n : Node}
    (h : ∀ x ∈ n.preorder depth, x.1 < depth + calls) :
    findBelowWithin d line calls n = some (findBelow d line n) := by
  refine Node.inductionOnLevels
    (P := fun k n => findBelowWithin d line k n = some (findBelow d line n)) (fun k m hm => ?_) h
  exact findBelowWithin_succ hm

/-! ## Trees of scripts -/

theorem message_nesting (n : Concrete) : (Fault.atNode (.nesting 2048) n).message =
    "nesting deeper than 2048 levels" ++
      s!" at line {n.data.start.row + 1}, column {n.data.start.column + 1}" := by
  have hlimit : s!"nesting deeper than {2048} levels" = "nesting deeper than 2048 levels" := by
    decide
  rw [← hlimit]
  rfl

theorem lt_of_mem_preorder_parts {root c : Concrete} {limit : Nat}
    (h : ∀ x ∈ root.preorder 0, x.1 ≤ limit) (hc : c ∈ root.parts) :
    ∀ x ∈ c.preorder 1, x.1 < 1 + limit := by
  intro x hx
  have hsub : c.preorder 1 ⊆ root.preorder 0 :=
    Concrete.preorder_subset_of_mem_children (Concrete.mem_children_of_mem_parts hc)
  have hle := h x (hsub hx)
  omega

/-- **The recursion is bounded** by the levels of a tree, of which there are at most 2048 below the
root. -/
theorem recursion_bounded (language : Language) (src : Source) (root : Concrete) :
    ((∃ x ∈ root.preorder 0, 2048 < x.1) → ∃ before deep after,
      root.preorder 0 = before ++ deep :: after ∧ (∀ x ∈ before, x.1 ≤ 2048) ∧ 2048 < deep.1 ∧
      SyntaxTree.ofConcrete language src root = .error (.atNode (.nesting 2048) deep.2) ∧
      (Fault.atNode (.nesting 2048) deep.2).message =
        "nesting deeper than 2048 levels" ++
          s!" at line {deep.2.data.start.row + 1}, column {deep.2.data.start.column + 1}") ∧
    ((∀ x ∈ root.preorder 0, x.1 ≤ 2048) →
      firstFaultWithin src 2049 root = some (firstFault src root) ∧
      root.parts.mapM (lowerWithin src 2048) = some (lowerAll src root.parts) ∧
      ∀ t, SyntaxTree.ofConcrete language src root = .ok t →
        t.statements = lowerAll src root.parts ∧ (∀ x ∈ t.preorder, x.1 ≤ 2047) ∧
        ∀ d line, t.statements.findSomeM? (findBelowWithin d line 2048) =
          some (findInTree t d line)) ∧
    (∀ x ∈ Node.preorderAll 0 (lowerAll src root.parts),
      ∃ y ∈ root.preorder 0, x.1 < y.1 ∧ x.2 = lower src y.2) ∧
    ∀ text levels, 2048 < levels → SyntaxTree.ofText language text =
      (Script.concreteTree language (.ofString text) levels).elim (.error ⟨.unknown, 1, 1⟩)
        (SyntaxTree.ofConcrete language (.ofString text)) := by
  refine ⟨fun hdeep => ?_, fun hlevels => ⟨?_, ?_, fun t ht => ?_⟩, fun x hx => ?_, ?_⟩
  · obtain ⟨before, deep, after, hsplit, hbefore, hlevel, hfault⟩ :=
      SyntaxTree.ofConcrete_of_deep language src hdeep
    exact ⟨before, deep, after, hsplit, hbefore, hlevel, hfault, message_nesting deep.2⟩
  · have hcalls : ∀ x ∈ root.preorder 0, x.1 < 0 + 2049 := by
      intro x hx
      have hle := hlevels x hx
      omega
    exact firstFaultWithin_eq hcalls
  · exact mapM_lowerWithin fun c hc => lowerWithin_eq (lt_of_mem_preorder_parts hlevels hc)
  · obtain ⟨-, -, rfl⟩ := SyntaxTree.ofConcrete_eq_ok_iff.mp ht
    have hnodes : ∀ x ∈ Node.preorderAll 0 (lowerAll src root.parts), x.1 < 0 + 2048 := by
      intro x hx
      obtain ⟨y, hy, hlt, -⟩ := exists_of_mem_preorderAll_lowerAll hx
      have hle := hlevels y hy
      omega
    refine ⟨rfl, fun x hx => by have := hnodes x hx; omega, fun d line => ?_⟩
    rw [findInTree, findAmong_eq_findSome?]
    exact findSomeM?_eq_some_findSome? fun s hs =>
      findBelowWithin_eq fun x hx => hnodes x (Node.mem_preorderAll.mpr ⟨s, hs, hx⟩)
  · exact exists_of_mem_preorderAll_lowerAll hx
  · exact fun text levels hlevels => SyntaxTree.ofText_eq_of_levels language text hlevels

/-! ## A tower of brackets -/

/-- Lists inside one another, none of them closed: the outermost starts at a column and each other
one a column after the one around it. -/
def tower : Nat → Nat → Concrete
  | 0, column => .node (bracket column) []
  | levels + 1, column => .node (bracket column) [tower levels (column + 1)]
where
  /-- A list that starts at a column of the first line. -/
  bracket (column : Nat) : NodeData :=
    { kind := "array", hasError := true, start := ⟨column, 0, column⟩, stop := ⟨2050, 0, 2050⟩ }

theorem level_of_mem_preorder_tower {x : Nat × Concrete} {levels column : Nat}
    (h : x ∈ (tower levels column).preorder column) :
    x.1 ≤ column + levels ∧ x.2.data.start = ⟨x.1, 0, x.1⟩ := by
  induction levels generalizing column with
  | zero =>
    obtain rfl : x = (column, tower 0 column) := by
      simpa [Concrete.preorder_eq, tower, Concrete.children, Concrete.preorderAll] using h
    exact ⟨Nat.le_refl _, rfl⟩
  | succ levels ih =>
    rw [Concrete.preorder_eq] at h
    rcases List.mem_cons.mp h with rfl | h
    · exact ⟨Nat.le_add_right _ _, rfl⟩
    · obtain ⟨c, hc, hx⟩ := Concrete.mem_preorderAll.mp h
      obtain rfl : c = tower levels (column + 1) := List.mem_singleton.mp hc
      obtain ⟨hle, hstart⟩ := ih hx
      exact ⟨by omega, hstart⟩

theorem exists_deepest_of_tower (levels column : Nat) :
    ∃ x ∈ (tower levels column).preorder column, x.1 = column + levels := by
  induction levels generalizing column with
  | zero => exact ⟨_, Concrete.mem_preorder_self column _, rfl⟩
  | succ levels ih =>
    obtain ⟨x, hx, hlevel⟩ := ih (column + 1)
    have hchild : tower levels (column + 1) ∈ (tower (levels + 1) column).children :=
      List.mem_singleton_self _
    exact ⟨x, Concrete.preorder_subset_of_mem_children hchild hx, by omega⟩

/-- A tower with one level too many is rejected at its last list, though none is closed. -/
theorem recursion_bounded_tower :
    SyntaxTree.ofConcrete .javaScript sampleSource (tower 2049 0) =
        .error ⟨.nesting 2048, 1, 2050⟩ ∧
      (tower 2049 0).data.hasError ∧
      (lowerAll sampleSource sampleTree.parts).findSomeM?
          (findBelowWithin (.ofText ⟨"a.test.js"⟩ sampleSource.text "") 3 2048) =
        some (some ⟨"it('a', y =>\n  f);", 2, 3⟩) ∧
      SyntaxTree.ofText .javaScript "f" =
        (Script.concreteTree .javaScript (.ofString "f") 4096).elim (.error ⟨.unknown, 1, 1⟩)
          (SyntaxTree.ofConcrete .javaScript (.ofString "f")) := by
  have hfound : findInTree ⟨.javaScript, lowerAll sampleSource sampleTree.parts⟩
      (.ofText ⟨"a.test.js"⟩ sampleSource.text "") 3 = some ⟨"it('a', y =>\n  f);", 2, 3⟩ := by
    decide +kernel
  refine ⟨?_, rfl, ?_, ?_⟩
  · obtain ⟨x, hx, hlevel⟩ := exists_deepest_of_tower 2049 0
    obtain ⟨before, deep, after, hsplit, -, hdeep, hfault, -⟩ :=
      (recursion_bounded .javaScript sampleSource (tower 2049 0)).1 ⟨x, hx, by omega⟩
    have hmem : deep ∈ (tower 2049 0).preorder 0 := by
      rw [hsplit]
      exact List.mem_append_right _ List.mem_cons_self
    obtain ⟨hle, hstart⟩ := level_of_mem_preorder_tower hmem
    have hlast : deep.1 = 2049 := by omega
    rw [hfault, Fault.atNode, hstart, hlast]
  · have hlevels : ∀ x ∈ sampleTree.preorder 0, x.1 ≤ 2048 := by decide +kernel
    obtain ⟨-, -, hsearch⟩ :=
      (recursion_bounded .javaScript sampleSource sampleTree).2.1 hlevels
    have hok : SyntaxTree.ofConcrete .javaScript sampleSource sampleTree =
        .ok ⟨.javaScript, lowerAll sampleSource sampleTree.parts⟩ :=
      SyntaxTree.ofConcrete_eq_ok_iff.mpr ⟨hlevels, rfl, rfl⟩
    obtain ⟨-, -, hcalls⟩ := hsearch _ hok
    rw [← hfound]
    exact hcalls _ 3
  · exact (recursion_bounded .javaScript sampleSource sampleTree).2.2.2 "f" 4096 (by decide)

end TestLocator.Locating
