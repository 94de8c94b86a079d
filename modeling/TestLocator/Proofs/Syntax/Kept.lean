import Mathlib.Data.List.Basic
import TestLocator.Proofs.Parsing.TreeOrder
import TestLocator.Syntax.Lower

/-!
# What lowering keeps

The children of a lowered node come from some nodes below the concrete node, not always from its
parts: arguments lose their list, initial values lose what wraps them, and of calls, members and
bindings only some fields stay.

* `functionKinds`, `Shape`, **`shape_lower`** — what a concrete node becomes;
* `kept` — the concrete nodes that become the children of the lowered node;
* **`children_lower`**, `span_lower` — a lowered node, one level at a time;
* `mem_nodesAll_of_mem_kept` — what is kept is below the concrete node;
* `sampleSource`, `sampleTree` — a small script and its concrete tree.
-/

namespace TestLocator.Syntax

open TestLocator.Parsing

variable {src : Source} {n c : Concrete}

theorem lowerAll_eq_map (src : Source) (cs : List Concrete) :
    lowerAll src cs = cs.map (lower src) := by
  induction cs with
  | nil => rw [lowerAll]; rfl
  | cons c cs ih => rw [lowerAll, ih, List.map_cons]

/-! ## The shape of a lowered node -/

/-- The kinds of function values. -/
def functionKinds : List String :=
  ["function_expression", "function", "generator_function", "arrow_function"]

/-- The arguments of a call: those of its list, or the template of a tagged template. -/
def keptArguments (n : Concrete) : List Concrete :=
  match n.child? "arguments" with
  | none => []
  | some arguments => if arguments.kind = "arguments" then arguments.parts else [arguments]

theorem kind_ne_of_mem_functionKinds {kind : String} (h : n.kind ∈ functionKinds)
    (hkind : kind ∉ functionKinds) : n.kind ≠ kind := by
  rintro rfl
  exact hkind h

/-- What a concrete node becomes, for each shape that a node may have. -/
inductive Shape (src : Source) (n : Concrete) : Node → Prop
  | call {callee : Concrete} : n.kind = "call_expression" → n.child? "function" = some callee →
    Shape src n (.call (spanOf n) (lower src callee) (lowerAll src (keptArguments n)))
  | member {object : Concrete} : n.kind = "member_expression" → n.child? "object" = some object →
    Shape src n (.member (spanOf n) (lower src object) ((n.child? "property").map (·.text src)))
  | identifier : n.kind = "identifier" → Shape src n (.identifier (spanOf n) (n.text src))
  | declarator {name : Concrete} : n.kind = "variable_declarator" → n.child? "name" = some name →
    Shape src n (.declarator (spanOf n) (lower src name)
      ((n.child? "value").map fun v => lower src (unwrap v)))
  | function {form : FunctionForm} : n.kind ∈ functionKinds →
    Shape src n (.function (spanOf n) form (lowerAll src n.parts))
  | other : (n.kind = "call_expression" → n.child? "function" = none) →
    (n.kind = "member_expression" → n.child? "object" = none) → n.kind ≠ "identifier" →
    (n.kind = "variable_declarator" → n.child? "name" = none) → n.kind ∉ functionKinds →
    Shape src n (.other (spanOf n) n.kind (lowerAll src n.parts))

theorem lower_call {callee : Concrete} (hkind : n.kind = "call_expression")
    (hcallee : n.child? "function" = some callee) :
    lower src n = .call (spanOf n) (lower src callee) (lowerAll src (keptArguments n)) := by
  rw [lower, keptArguments]
  simp only [hkind]
  split
  · rename_i hnone
    rw [hcallee] at hnone
    cases hnone
  · rename_i f hf
    obtain rfl : callee = f := Option.some.inj (hcallee.symm.trans hf)
    cases n.child? "arguments" with
    | none => simp [lowerAll]
    | some arguments => by_cases h : arguments.kind = "arguments" <;> simp [h, lowerAll]

theorem lower_member {object : Concrete} (hkind : n.kind = "member_expression")
    (hobject : n.child? "object" = some object) :
    lower src n =
      .member (spanOf n) (lower src object) ((n.child? "property").map (·.text src)) := by
  rw [lower]
  simp only [hkind]
  split <;> simp_all

theorem lower_declarator {name : Concrete} (hkind : n.kind = "variable_declarator")
    (hname : n.child? "name" = some name) :
    lower src n = .declarator (spanOf n) (lower src name)
      ((n.child? "value").map fun v => lower src (unwrap v)) := by
  rw [lower]
  simp only [hkind]
  split
  · rename_i hnone
    rw [hname] at hnone
    cases hnone
  · rename_i m hm
    obtain rfl : name = m := Option.some.inj (hname.symm.trans hm)
    split <;> simp_all

theorem lower_function (hkind : n.kind ∈ functionKinds) :
    ∃ form, lower src n = .function (spanOf n) form (lowerAll src n.parts) := by
  simp only [functionKinds, List.mem_cons, List.not_mem_nil, or_false] at hkind
  rw [lower]
  rcases hkind with h | h | h | h
  · exact ⟨.expression, by simp only [h]⟩
  · exact ⟨.expression, by simp only [h]⟩
  · exact ⟨.expression, by simp only [h]⟩
  · exact ⟨.arrow, by simp only [h]⟩

theorem lower_other (hcall : n.kind = "call_expression" → n.child? "function" = none)
    (hmember : n.kind = "member_expression" → n.child? "object" = none)
    (hidentifier : n.kind ≠ "identifier")
    (hdeclarator : n.kind = "variable_declarator" → n.child? "name" = none)
    (hfunction : n.kind ∉ functionKinds) :
    lower src n = .other (spanOf n) n.kind (lowerAll src n.parts) := by
  simp only [functionKinds, List.mem_cons, List.not_mem_nil, or_false, not_or] at hfunction
  rw [lower]
  split <;> rename_i hkind
  · split
    · rfl
    · rename_i f hf
      rw [hcall hkind] at hf
      cases hf
  · split
    · rfl
    · rename_i o ho
      rw [hmember hkind] at ho
      cases ho
  · exact absurd hkind hidentifier
  · split
    · rfl
    · rename_i m hm
      rw [hdeclarator hkind] at hm
      cases hm
  · exact absurd hkind hfunction.1
  · exact absurd hkind hfunction.2.1
  · exact absurd hkind hfunction.2.2.1
  · exact absurd hkind hfunction.2.2.2
  · rfl

/-- **What a concrete node becomes** is given by its shape. -/
theorem shape_lower (src : Source) (n : Concrete) : Shape src n (lower src n) := by
  by_cases hfunction : n.kind ∈ functionKinds
  · obtain ⟨form, h⟩ : ∃ form, lower src n = .function (spanOf n) form (lowerAll src n.parts) :=
      lower_function hfunction
    rw [h]
    exact .function hfunction
  by_cases hidentifier : n.kind = "identifier"
  · have h : lower src n = .identifier (spanOf n) (n.text src) := by
      rw [lower]
      simp only [hidentifier]
    rw [h]
    exact .identifier hidentifier
  -- the other shapes need a field, and a node without it is an other node
  by_cases hcall : n.kind = "call_expression" ∧ (n.child? "function").isSome
  · obtain ⟨callee, hcallee⟩ := Option.isSome_iff_exists.mp hcall.2
    rw [lower_call hcall.1 hcallee]
    exact .call hcall.1 hcallee
  by_cases hmember : n.kind = "member_expression" ∧ (n.child? "object").isSome
  · obtain ⟨object, hobject⟩ := Option.isSome_iff_exists.mp hmember.2
    rw [lower_member hmember.1 hobject]
    exact .member hmember.1 hobject
  by_cases hdeclarator : n.kind = "variable_declarator" ∧ (n.child? "name").isSome
  · obtain ⟨name, hname⟩ := Option.isSome_iff_exists.mp hdeclarator.2
    rw [lower_declarator hdeclarator.1 hname]
    exact .declarator hdeclarator.1 hname
  · simp only [not_and, Option.not_isSome_iff_eq_none] at hcall hmember hdeclarator
    rw [lower_other hcall hmember hidentifier hdeclarator hfunction]
    exact .other hcall hmember hidentifier hdeclarator hfunction

theorem span_lower (src : Source) (n : Concrete) : (lower src n).span = spanOf n := by
  have h := shape_lower src n
  generalize lower src n = m at h
  cases h <;> rfl

/-! ## What is kept -/

/-- The concrete nodes that become the children of the lowered node. -/
def kept (n : Concrete) : List Concrete :=
  match n.kind with
  | "call_expression" =>
    match n.child? "function" with
    | none => n.parts
    | some callee => callee :: keptArguments n
  | "member_expression" =>
    match n.child? "object" with
    | none => n.parts
    | some object => [object]
  | "identifier" => []
  | "variable_declarator" =>
    match n.child? "name" with
    | none => n.parts
    | some name => name :: ((n.child? "value").map unwrap).toList
  | _ => n.parts

theorem kept_other (hcall : n.kind = "call_expression" → n.child? "function" = none)
    (hmember : n.kind = "member_expression" → n.child? "object" = none)
    (hidentifier : n.kind ≠ "identifier")
    (hdeclarator : n.kind = "variable_declarator" → n.child? "name" = none) : kept n = n.parts := by
  unfold kept
  split <;> rename_i hkind
  · rw [hcall hkind]
  · rw [hmember hkind]
  · exact absurd hkind hidentifier
  · rw [hdeclarator hkind]
  · rfl

theorem kept_function (hkind : n.kind ∈ functionKinds) : kept n = n.parts := by
  have hne : ∀ kind, kind ∉ functionKinds → n.kind ≠ kind := fun _ h =>
    kind_ne_of_mem_functionKinds hkind h
  exact kept_other (fun e => absurd e (hne _ (by decide))) (fun e => absurd e (hne _ (by decide)))
    (hne _ (by decide)) fun e => absurd e (hne _ (by decide))

/-- **The children of a lowered node** are what is kept, lowered. -/
theorem children_lower (src : Source) (n : Concrete) :
    (lower src n).children = (kept n).map (lower src) := by
  have h := shape_lower src n
  generalize lower src n = m at h
  cases h with
  | call hkind hcallee => simp [Node.children, kept, hkind, hcallee, lowerAll_eq_map]
  | member hkind hobject => simp [Node.children, kept, hkind, hobject]
  | identifier hkind => simp [Node.children, kept, hkind]
  | declarator hkind hname =>
    cases hvalue : n.child? "value" <;> simp [Node.children, kept, hkind, hname, hvalue]
  | function hkind => rw [Node.children, kept_function hkind, lowerAll_eq_map]
  | other hcall hmember hidentifier hdeclarator _ =>
    rw [Node.children, kept_other hcall hmember hidentifier hdeclarator, lowerAll_eq_map]

/-! ## What is kept is below -/

theorem mem_nodesAll_of_mem_parts (h : c ∈ n.parts) : c ∈ Concrete.nodesAll n.children :=
  Concrete.mem_nodesAll.mpr ⟨c, Concrete.mem_children_of_mem_parts h, c.mem_nodes_self⟩

theorem mem_nodes_of_mem_parts (h : c ∈ n.parts) : c ∈ n.nodes :=
  Concrete.mem_nodes_of_mem_children (Concrete.mem_children_of_mem_parts h)

theorem unwrap_of_not_wrapper (h : isWrapper n.kind = false) : unwrap n = n := by
  rw [unwrap, h, if_neg Bool.false_ne_true]

theorem unwrap_of_wrapper {rest : List Concrete} (h : isWrapper n.kind = true)
    (hparts : n.parts = c :: rest) : unwrap n = unwrap c := by
  rw [unwrap, if_pos h]
  split
  · rename_i hnil
    rw [hparts] at hnil
    cases hnil
  · rename_i inner rest' hcons
    rw [hparts] at hcons
    cases hcons
    rfl

theorem unwrap_mem_nodes (n : Concrete) : unwrap n ∈ n.nodes := by
  fun_induction unwrap n with
  | case1 n _ _ => exact n.mem_nodes_self
  | case2 n _ inner rest hparts _ ih =>
    have hinner : inner ∈ n.parts := hparts ▸ List.mem_cons_self
    exact Concrete.nodes_subset_of_mem (mem_nodes_of_mem_parts hinner) ih
  | case3 n _ => exact n.mem_nodes_self

theorem mem_nodesAll_children_trans {m : Concrete} (hm : m ∈ Concrete.nodesAll n.children)
    (hc : c ∈ m.nodes) : c ∈ Concrete.nodesAll n.children := by
  obtain ⟨d, hd, hmd⟩ := Concrete.mem_nodesAll.mp hm
  exact Concrete.mem_nodesAll.mpr ⟨d, hd, Concrete.nodes_subset_of_mem hmd hc⟩

theorem exists_of_mem_keptArguments (hc : c ∈ keptArguments n) :
    ∃ arguments, n.child? "arguments" = some arguments ∧ c ∈ arguments.nodes := by
  unfold keptArguments at hc
  split at hc
  · exact absurd hc List.not_mem_nil
  · rename_i arguments harguments
    refine ⟨arguments, harguments, ?_⟩
    split at hc
    · exact mem_nodes_of_mem_parts hc
    · rw [List.mem_singleton.mp hc]
      exact arguments.mem_nodes_self

theorem mem_nodesAll_of_mem_keptArguments (h : c ∈ keptArguments n) :
    c ∈ Concrete.nodesAll n.children := by
  obtain ⟨arguments, harguments, hc⟩ := exists_of_mem_keptArguments h
  exact mem_nodesAll_children_trans (Concrete.mem_nodesAll_of_child? harguments) hc

/-- **What is kept is below** the concrete node. -/
theorem mem_nodesAll_of_mem_kept (h : c ∈ kept n) : c ∈ Concrete.nodesAll n.children := by
  unfold kept at h
  split at h
  · split at h
    · exact mem_nodesAll_of_mem_parts h
    · rename_i callee hcallee
      rcases List.mem_cons.mp h with rfl | h
      · exact Concrete.mem_nodesAll_of_child? hcallee
      · exact mem_nodesAll_of_mem_keptArguments h
  · split at h
    · exact mem_nodesAll_of_mem_parts h
    · rename_i object hobject
      rw [List.mem_singleton.mp h]
      exact Concrete.mem_nodesAll_of_child? hobject
  · exact absurd h List.not_mem_nil
  · split at h
    · exact mem_nodesAll_of_mem_parts h
    · rename_i name hname
      rcases List.mem_cons.mp h with rfl | h
      · exact Concrete.mem_nodesAll_of_child? hname
      · obtain ⟨value, hvalue, rfl⟩ := Option.map_eq_some_iff.mp (Option.mem_toList.mp h)
        exact mem_nodesAll_children_trans (Concrete.mem_nodesAll_of_child? hvalue)
          (unwrap_mem_nodes value)
  · exact mem_nodesAll_of_mem_parts h

theorem mem_nodes_of_mem_kept (h : c ∈ kept n) : c ∈ n.nodes :=
  n.nodesAll_children_subset (mem_nodesAll_of_mem_kept h)

theorem size_lt_of_mem_kept (h : c ∈ kept n) : c.size < n.size := by
  obtain ⟨d, hd, hc⟩ := Concrete.mem_nodesAll.mp (mem_nodesAll_of_mem_kept h)
  exact Nat.lt_of_le_of_lt (Concrete.size_le_of_mem_nodes hc) (Concrete.size_lt_of_mem_children hd)

/-! ## A sample -/

/-- A script that binds a function and calls a test. -/
def sampleSource : Source := .ofString "const f = (x => 1);\nit('a', y =>\n  f);\n"

/-- A place in the sample by its line and its column. -/
def samplePoint (place : Nat × Nat) : Point :=
  ⟨[0, 20, 33].getD place.1 39 + place.2, place.1, place.2⟩

/-- A node of the sample with a name. -/
def sampleNode (kind : String) (fields : List String) (start stop : Nat × Nat)
    (children : List Concrete) : Concrete :=
  .node { kind, fields, start := samplePoint start, stop := samplePoint stop } children

/-- The statement that binds the function. -/
def sampleBinding : Concrete :=
  sampleNode "lexical_declaration" [] (0, 0) (0, 19)
    [sampleNode "variable_declarator" [] (0, 6) (0, 18)
      [sampleNode "identifier" ["name"] (0, 6) (0, 7) [],
        sampleNode "parenthesized_expression" ["value"] (0, 10) (0, 18)
          [sampleNode "arrow_function" [] (0, 11) (0, 17)
            [sampleNode "identifier" ["parameter"] (0, 11) (0, 12) [],
              sampleNode "number" ["body"] (0, 16) (0, 17) []]]]]

/-- The statement that calls the test. -/
def sampleCall : Concrete :=
  sampleNode "expression_statement" [] (1, 0) (2, 5)
    [sampleNode "call_expression" [] (1, 0) (2, 4)
      [sampleNode "identifier" ["function"] (1, 0) (1, 2) [],
        sampleNode "arguments" ["arguments"] (1, 2) (2, 4)
          [sampleNode "string" [] (1, 3) (1, 6) [],
            sampleNode "arrow_function" [] (1, 8) (2, 3)
              [sampleNode "identifier" ["parameter"] (1, 8) (1, 9) [],
                sampleNode "identifier" ["body"] (2, 2) (2, 3) []]]]]

/-- The concrete tree of the sample without the nodes that have no name. -/
def sampleTree : Concrete := sampleNode "program" [] (0, 0) (3, 0) [sampleBinding, sampleCall]

end TestLocator.Syntax
