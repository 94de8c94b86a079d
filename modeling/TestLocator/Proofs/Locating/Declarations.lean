import Mathlib.Data.List.Basic
import TestLocator.Proofs.Syntax.Kept
import TestLocator.Proofs.Syntax.NodeOrder
import TestLocator.Locating.Rule

/-!
# Declarations survive lowering

Whether a node declares a test can be read off the concrete tree, without syntax nodes.

* `memberNames`, `calleeRule`, `valueRule`, `declaredRule` — the rules for concrete nodes;
* `recognize_lower` — a lowered node satisfies the rule that the concrete node does;
* `Keeps`, `Lossless` — lowering passes over nothing that could declare a test;
* `declaration?`, `concreteDeclaration?` — the rule and the lines of a declaration;
* **`declarations_lowerAll`** — lowering neither hides nor invents a declaration.
-/

namespace TestLocator.Locating

open TestLocator.Parsing TestLocator.Syntax

variable {src : Source} {n : Concrete}

/-! ## Rules for concrete nodes -/

/-- The two names of a concrete member of a plain name. -/
def memberNames (src : Source) (n : Concrete) : Option (String × String) :=
  if n.kind = "member_expression" then
    match n.child? "object", n.child? "property" with
    | some object, some property =>
      if object.kind = "identifier" then some (object.text src, property.text src) else none
    | _, _ => none
  else none

/-- The rule that a call satisfies: what is called is the name of a test function, or a modifier of
`describe`. -/
def calleeRule (src : Source) (callee : Concrete) : Option Rule :=
  if callee.kind = "identifier" then
    if callee.text src ∈ testCallees then some .testCall else none
  else
    match memberNames src callee with
    | some (object, property) =>
      if object = "describe" ∧ property ∈ describeModifiers then some .describeModifier else none
    | none => none

/-- The rule that a binding of a value satisfies: the value is a function, or a call of
`jest.spyOn`. -/
def valueRule (src : Source) (value : Concrete) : Option Rule :=
  if value.kind ∈ functionKinds then some .functionBinding
  else if value.kind = "call_expression" ∧
    (value.child? "function").bind (memberNames src) = some ("jest", "spyOn") then some .spyBinding
  else none

/-- The rule that a concrete node satisfies. What only wraps a bound value does not count. -/
def declaredRule (src : Source) (n : Concrete) : Option Rule :=
  if n.kind = "call_expression" then (n.child? "function").bind (calleeRule src)
  else if n.kind = "variable_declarator" then
    (n.child? "value").bind fun value => valueRule src (unwrap value)
  else none

/-! ## Lowered nodes satisfy the rules of concrete nodes -/

theorem identifierName_lower (src : Source) (n : Concrete) :
    (lower src n).identifierName = if n.kind = "identifier" then some (n.text src) else none := by
  have h := shape_lower src n
  generalize lower src n = m at h
  cases h with
  | call hkind _ => simp [Node.identifierName, hkind]
  | member hkind _ => simp [Node.identifierName, hkind]
  | identifier hkind => simp [Node.identifierName, hkind]
  | declarator hkind _ => simp [Node.identifierName, hkind]
  | function hkind =>
    have hne : n.kind ≠ "identifier" := kind_ne_of_mem_functionKinds hkind (by decide)
    simp [Node.identifierName, hne]
  | other _ _ hne _ _ => simp [Node.identifierName, hne]

theorem memberPath_lower (src : Source) (n : Concrete) :
    (lower src n).memberPath = memberNames src n := by
  have h := shape_lower src n
  generalize lower src n = m at h
  cases h with
  | call hkind _ => simp [Node.memberPath, memberNames, hkind]
  | @member object hkind hobject =>
    simp only [Node.memberPath, memberNames, hkind, hobject, identifierName_lower, if_true]
    cases n.child? "property" <;> by_cases ho : object.kind = "identifier" <;> simp [ho]
  | identifier hkind => simp [Node.memberPath, memberNames, hkind]
  | declarator hkind _ => simp [Node.memberPath, memberNames, hkind]
  | function hkind =>
    have hne : n.kind ≠ "member_expression" := kind_ne_of_mem_functionKinds hkind (by decide)
    simp [Node.memberPath, memberNames, hne]
  | other _ hmember _ _ _ =>
    by_cases hkind : n.kind = "member_expression"
    · simp [Node.memberPath, memberNames, hkind, hmember hkind]
    · simp [Node.memberPath, memberNames, hkind]

theorem recognizeCallee_lower (src : Source) (callee : Concrete) :
    recognizeCallee (lower src callee) = calleeRule src callee := by
  unfold recognizeCallee calleeRule
  rw [identifierName_lower, memberPath_lower]
  by_cases hkind : callee.kind = "identifier"
  · simp [hkind]
  · simp only [if_neg hkind]
    rcases memberNames src callee with _ | ⟨object, property⟩
    · rfl
    · by_cases hdescribe : object = "describe"
      · subst hdescribe
        simp
      · simp only [hdescribe, false_and, if_false]
        split
        · rename_i e
          simp only [Option.some.injEq, Prod.mk.injEq] at e
          exact absurd e.1 hdescribe
        · rfl

theorem recognizeInit_lower (src : Source) (value : Concrete) :
    recognizeInit (lower src value) = valueRule src value := by
  have h := shape_lower src value
  generalize lower src value = m at h
  cases h with
  | call hkind hcallee =>
    simp [recognizeInit, valueRule, hkind, hcallee, functionKinds, memberPath_lower]
  | member hkind _ => simp [recognizeInit, valueRule, hkind, functionKinds]
  | identifier hkind => simp [recognizeInit, valueRule, hkind, functionKinds]
  | declarator hkind _ => simp [recognizeInit, valueRule, hkind, functionKinds]
  | function hkind => simp [recognizeInit, valueRule, hkind]
  | other hcall _ _ _ hfunction =>
    by_cases hkind : value.kind = "call_expression"
    · simp [recognizeInit, valueRule, functionKinds, hkind, hcall hkind]
    · simp [recognizeInit, valueRule, hfunction, hkind]

/-- **A lowered node satisfies the rule of the concrete node.** -/
theorem recognize_lower (hname : n.kind = "variable_declarator" → (n.child? "value").isSome →
      (n.child? "name").isSome) :
    recognize (lower src n) = declaredRule src n := by
  have h := shape_lower src n
  generalize lower src n = m at h
  cases h with
  | call hkind hcallee => simp [recognize, declaredRule, hkind, hcallee, recognizeCallee_lower]
  | member hkind _ => simp [recognize, declaredRule, hkind]
  | identifier hkind => simp [recognize, declaredRule, hkind]
  | declarator hkind _ =>
    cases hvalue : n.child? "value" <;>
      simp [recognize, declaredRule, hkind, hvalue, recognizeInit_lower]
  | function hkind =>
    have hcall : n.kind ≠ "call_expression" := kind_ne_of_mem_functionKinds hkind (by decide)
    have hdeclarator : n.kind ≠ "variable_declarator" :=
      kind_ne_of_mem_functionKinds hkind (by decide)
    simp [recognize, declaredRule, hcall, hdeclarator]
  | other hcall _ _ hdeclarator _ =>
    by_cases hkind : n.kind = "call_expression"
    · simp [recognize, declaredRule, hkind, hcall hkind]
    · by_cases hkind' : n.kind = "variable_declarator"
      · have hvalue : n.child? "value" = none := by
          have := hname hkind'
          rw [hdeclarator hkind'] at this
          simpa using this
        simp [recognize, declaredRule, hkind', hvalue]
      · simp [recognize, declaredRule, hkind, hkind']

/-! ## What lowering passes over -/

/-- Walking through some trees in order, and down through the parts of their nodes, one comes to the
nodes `ks`, which stay whole, and every node that is passed on the way is neither a call nor a
binding. So it is where `ks` are among the trees in this order and the others hold no call and no
binding. -/
inductive Keeps : List Concrete → List Concrete → Prop
  | nil : Keeps [] []
  | keep {c : Concrete} {cs ks : List Concrete} : Keeps cs ks → Keeps (c :: cs) (c :: ks)
  | pass {c : Concrete} {cs ks : List Concrete} : c.kind ≠ "call_expression" →
    c.kind ≠ "variable_declarator" → Keeps (c.parts ++ cs) ks → Keeps (c :: cs) ks

/-- Lowering a node loses no declaration. The fields that it follows come in the order of the text
and are reached through parts, a name before every value, and what it drops holds no call and no
binding: other parts than these fields, what is below a name, and what else is in what wraps a
value. -/
structure Lossless (n : Concrete) : Prop where
  call : n.kind = "call_expression" → ∀ callee, n.child? "function" = some callee →
    Keeps n.parts (callee :: (n.child? "arguments").toList)
  member : n.kind = "member_expression" → ∀ object, n.child? "object" = some object →
    Keeps n.parts [object]
  identifier : n.kind = "identifier" → Keeps n.parts []
  declarator : n.kind = "variable_declarator" → ∀ name, n.child? "name" = some name →
    Keeps n.parts (name :: (n.child? "value").toList)
  value : n.kind = "variable_declarator" → ∀ value, n.child? "value" = some value →
    (n.child? "name").isSome ∧ Keeps [value] [unwrap value]

/-- The rule that a node satisfies and its lines. -/
def declaration? (n : Node) : Option (Rule × Nat × Nat) :=
  (recognize n).map fun rule => (rule, n.span.startLine, n.span.endLine)

/-- The rule that a concrete node satisfies and its lines. -/
def concreteDeclaration? (src : Source) (n : Concrete) : Option (Rule × Nat × Nat) :=
  (declaredRule src n).map fun rule =>
    (rule, n.data.start.row + 1, max (n.data.stop.row + 1) (n.data.start.row + 1))

variable {cs ks ls : List Concrete}

theorem Keeps.refl (cs : List Concrete) : Keeps cs cs := by
  induction cs with
  | nil => exact .nil
  | cons c cs ih => exact .keep ih

theorem Keeps.append_left (ds : List Concrete) (h : Keeps cs ks) : Keeps (ds ++ cs) (ds ++ ks) := by
  induction ds with
  | nil => exact h
  | cons d ds ih => exact .keep ih

theorem Keeps.trans (h : Keeps cs ks) (h' : Keeps ks ls) : Keeps cs ls := by
  -- the outer induction is on `h'`, since going down into a node makes the list of `h` longer
  induction h' generalizing cs with
  | nil => exact h
  | @keep c ks ls h' ih =>
    generalize hc : c :: ks = ds at h
    induction h with
    | nil => cases hc
    | keep h _ => cases hc; exact .keep (ih h)
    | pass hcall hdeclarator _ ih' => exact .pass hcall hdeclarator (ih' hc)
  | @pass c ks ls hcall hdeclarator h' ih =>
    generalize hc : c :: ks = ds at h
    induction h with
    | nil => cases hc
    | keep h _ => cases hc; exact .pass hcall hdeclarator (ih (h.append_left c.parts))
    | pass hcall hdeclarator _ ih' => exact .pass hcall hdeclarator (ih' hc)

theorem keeps_keptArguments (n : Concrete) :
    Keeps (n.child? "arguments").toList (keptArguments n) := by
  unfold keptArguments
  cases n.child? "arguments" with
  | none => exact .nil
  | some arguments =>
    by_cases h : arguments.kind = "arguments"
    · simp only [h, if_true, Option.toList_some]
      refine .pass (by rw [h]; decide) (by rw [h]; decide) ?_
      rw [List.append_nil]
      exact .refl _
    · simp only [h, if_false, Option.toList_some]
      exact .refl _

theorem Lossless.keeps (h : Lossless n) : Keeps n.parts (kept n) := by
  unfold kept
  split
  · split
    · exact .refl _
    · exact (h.call ‹_› _ ‹_›).trans (.keep (keeps_keptArguments n))
  · split
    · exact .refl _
    · exact h.member ‹_› _ ‹_›
  · exact h.identifier ‹_›
  · split
    · exact .refl _
    · refine (h.declarator ‹_› _ ‹_›).trans (.keep ?_)
      cases hvalue : n.child? "value" with
      | none => exact .nil
      | some value => exact (h.value ‹_› value hvalue).2
  · exact .refl _

theorem Keeps.outlineAll_subset (h : Keeps cs ks) :
    Concrete.outlineAll ks ⊆ Concrete.outlineAll cs := by
  induction h with
  | nil => exact List.Subset.refl _
  | keep _ ih =>
    rw [Concrete.outlineAll_cons, Concrete.outlineAll_cons]
    intro m hm
    exact List.mem_append.mpr ((List.mem_append.mp hm).imp_right fun hm => ih hm)
  | pass _ _ _ ih =>
    rw [Concrete.outlineAll_cons, Concrete.outline_eq, List.cons_append,
      ← Concrete.outlineAll_append]
    exact List.Subset.trans ih (List.subset_cons_self _ _)

theorem Keeps.declarations_eq (src : Source) (h : Keeps cs ks) :
    (Concrete.outlineAll cs).filterMap (concreteDeclaration? src) =
      (Concrete.outlineAll ks).filterMap (concreteDeclaration? src) := by
  induction h with
  | nil => rfl
  | keep _ ih => simp [ih]
  | pass hcall hdeclarator _ ih =>
    rw [Concrete.outlineAll_cons, Concrete.outline_eq, List.cons_append,
      ← Concrete.outlineAll_append, List.filterMap_cons_none, ih]
    simp [concreteDeclaration?, declaredRule, hcall, hdeclarator]

theorem declaration?_lower (h : Lossless n) :
    declaration? (lower src n) = concreteDeclaration? src n := by
  have hname : n.kind = "variable_declarator" → (n.child? "value").isSome →
      (n.child? "name").isSome := by
    intro hkind hvalue
    obtain ⟨value, hvalue⟩ := Option.isSome_iff_exists.mp hvalue
    exact (h.value hkind value hvalue).1
  rw [declaration?, recognize_lower hname, span_lower]
  rfl

/-! ## Where nothing is lost -/

theorem lossless_of_plain (h : n.kind ∉ ["call_expression", "member_expression", "identifier",
    "variable_declarator"]) : Lossless n := by
  simp only [List.mem_cons, List.not_mem_nil, or_false, not_or] at h
  obtain ⟨hcall, hmember, hidentifier, hdeclarator⟩ := h
  exact ⟨fun e => absurd e hcall, fun e => absurd e hmember, fun e => absurd e hidentifier,
    fun e => absurd e hdeclarator, fun e => absurd e hdeclarator⟩

theorem lossless_of_identifier (hkind : n.kind = "identifier") (hparts : n.parts = []) :
    Lossless n where
  call h := absurd (hkind.symm.trans h) (by decide)
  member h := absurd (hkind.symm.trans h) (by decide)
  identifier _ := hparts ▸ .nil
  declarator h := absurd (hkind.symm.trans h) (by decide)
  value h := absurd (hkind.symm.trans h) (by decide)

theorem lossless_of_call {callee arguments : Concrete} (hkind : n.kind = "call_expression")
    (hcallee : n.child? "function" = some callee)
    (harguments : n.child? "arguments" = some arguments)
    (hparts : n.parts = [callee, arguments]) : Lossless n where
  call _ f hf := by
    obtain rfl : callee = f := Option.some.inj (hcallee.symm.trans hf)
    rw [harguments, hparts]
    exact .refl _
  member h := absurd (hkind.symm.trans h) (by decide)
  identifier h := absurd (hkind.symm.trans h) (by decide)
  declarator h := absurd (hkind.symm.trans h) (by decide)
  value h := absurd (hkind.symm.trans h) (by decide)

theorem lossless_of_declarator {name value : Concrete} (hkind : n.kind = "variable_declarator")
    (hname : n.child? "name" = some name) (hvalue : n.child? "value" = some value)
    (hparts : n.parts = [name, value]) (hwrapped : Keeps [value] [unwrap value]) : Lossless n where
  call h := absurd (hkind.symm.trans h) (by decide)
  member h := absurd (hkind.symm.trans h) (by decide)
  identifier h := absurd (hkind.symm.trans h) (by decide)
  declarator _ m hm := by
    obtain rfl : name = m := Option.some.inj (hname.symm.trans hm)
    rw [hvalue, hparts]
    exact .refl _
  value _ v hv := by
    obtain rfl : value = v := Option.some.inj (hvalue.symm.trans hv)
    exact ⟨by rw [hname]; rfl, hwrapped⟩

/-- A wrapper of one part wraps nothing else. -/
theorem keeps_unwrap_of_wrapper {value inner : Concrete} (h : isWrapper value.kind = true)
    (hparts : value.parts = [inner]) (hinner : Keeps [inner] [unwrap inner]) :
    Keeps [value] [unwrap value] := by
  have hne : ∀ kind, isWrapper kind = false → value.kind ≠ kind := by
    rintro kind hkind rfl
    exact absurd (h.symm.trans hkind) (by decide)
  rw [unwrap_of_wrapper h hparts]
  refine .pass (hne _ (by decide)) (hne _ (by decide)) ?_
  rw [hparts]
  exact hinner

/-! ## Declarations in order -/

theorem declarations_map_lower (h : ∀ c ∈ cs, (lower src c).nodes.filterMap declaration? =
      c.outline.filterMap (concreteDeclaration? src)) :
    (Node.nodesAll (cs.map (lower src))).filterMap declaration? =
      (Concrete.outlineAll cs).filterMap (concreteDeclaration? src) := by
  induction cs with
  | nil => simp
  | cons c cs ih =>
    rw [List.map_cons, Node.nodesAll_cons, Concrete.outlineAll_cons, List.filterMap_append,
      List.filterMap_append, h c List.mem_cons_self, ih fun c hc => h c (List.mem_cons_of_mem _ hc)]

theorem declarations_lower (h : ∀ m ∈ n.outline, Lossless m) :
    (lower src n).nodes.filterMap declaration? =
      n.outline.filterMap (concreteDeclaration? src) := by
  induction n using Concrete.inductionOnSize with
  | h n ih =>
    rw [Concrete.outline_eq] at h ⊢
    have hn : Lossless n := h n List.mem_cons_self
    have hkept : ∀ c ∈ kept n, (lower src c).nodes.filterMap declaration? =
        c.outline.filterMap (concreteDeclaration? src) := by
      intro c hc
      refine ih c (size_lt_of_mem_kept hc) fun m hm => h m (List.mem_cons_of_mem _ ?_)
      exact hn.keeps.outlineAll_subset (Concrete.outline_subset_outlineAll hc hm)
    rw [Node.nodes_eq, children_lower, List.filterMap_cons, List.filterMap_cons,
      declaration?_lower hn, declarations_map_lower hkept, hn.keeps.declarations_eq src]

/-- **Lowering neither hides nor invents a declaration.** -/
theorem declarations_lowerAll (src : Source) (root : Concrete)
    (h : ∀ n ∈ Concrete.outlineAll root.parts, Lossless n) :
    (Node.nodesAll (lowerAll src root.parts)).filterMap declaration? =
      (Concrete.outlineAll root.parts).filterMap (concreteDeclaration? src) := by
  rw [lowerAll_eq_map]
  refine declarations_map_lower fun c hc => declarations_lower fun m hm => h m ?_
  exact Concrete.outline_subset_outlineAll hc hm

/-- Of a script that binds a function and calls a test, lowering loses neither. -/
theorem declarations_lowerAll_sample :
    (∀ n ∈ Concrete.outlineAll sampleTree.parts, Lossless n) ∧
      (Node.nodesAll (lowerAll sampleSource sampleTree.parts)).filterMap declaration? =
        [(.functionBinding, 1, 1), (.testCall, 2, 3)] := by
  have h : ∀ n ∈ Concrete.outlineAll sampleTree.parts, Lossless n := by
    intro n hn
    simp only [sampleTree, sampleBinding, sampleCall, sampleNode, Concrete.parts, Concrete.children,
      Concrete.data, Concrete.outlineAll_cons, Concrete.outline_eq, Concrete.outlineAll_nil,
      List.filter_cons, List.filter_nil, List.mem_cons, List.mem_append, List.not_mem_nil,
      Bool.not_false, Bool.and_true, if_true, List.append_nil, or_false] at hn
    rcases hn with (rfl | rfl | rfl | rfl | rfl | rfl | rfl) |
      rfl | rfl | rfl | rfl | rfl | rfl | rfl | rfl
    all_goals try exact lossless_of_plain (by decide)
    all_goals try exact lossless_of_identifier rfl rfl
    · refine lossless_of_declarator rfl rfl rfl rfl (keeps_unwrap_of_wrapper (by decide) rfl ?_)
      rw [unwrap_of_not_wrapper (by decide)]
      exact .refl _
    · exact lossless_of_call rfl rfl rfl rfl
  exact ⟨h, (declarations_lowerAll _ _ h).trans (by decide +kernel)⟩

end TestLocator.Locating
