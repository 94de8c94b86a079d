import TestLocator.Proofs.Locating.Declarations
import TestLocator.Proofs.Parsing.Sketch

/-!
# Sketches that declare nothing

What the tree of a sketch declares is told by the sketch, piece by piece, where its text stands in
the text of the script.

* `declarationsOf`, `Quiet` — the declarations in some trees, and sketches of trees without any;
* `quiet_node`, `quiet_of_isPlain` — pieces that are no calls and no bindings;
* `nameCall`, `memberCall`, `numberBinding` — calls of a plain name and of a member of a call, and
  names that are bound to a number;
* **`declarationsOf_nameCall`** — what a call of a plain name declares.
-/

namespace TestLocator.Locating

open TestLocator.Parsing TestLocator.Parsing.Sketch TestLocator.Syntax

/-- The declarations in some trees of a text, with their rules and lines. -/
def declarationsOf (text : String) (cs : List Concrete) : List (Rule × Nat × Nat) :=
  (Concrete.nodesAll cs).filterMap (concreteDeclaration? (.ofString text))

/-- Wherever the text of a sketch stands, its tree declares nothing. -/
def Quiet (s : Sketch) : Prop :=
  ∀ text p, Stands text p s.written → declarationsOf text (s.drawn p) = []

section Pieces

variable {text : String} {p : Point} {s : Sketch} {ss ts : List Sketch}

theorem declarationsOf_append (text : String) (cs ds : List Concrete) :
    declarationsOf text (cs ++ ds) = declarationsOf text cs ++ declarationsOf text ds := by
  rw [declarationsOf, Concrete.nodesAll_append, List.filterMap_append]
  rfl

theorem declarationsOf_singleton (text : String) (c : Concrete) : declarationsOf text [c] =
    (concreteDeclaration? (.ofString text) c).toList ++ declarationsOf text c.children := by
  rw [declarationsOf, Concrete.nodesAll_cons, Concrete.nodesAll_nil, List.append_nil, c.nodes_eq,
    List.filterMap_cons]
  cases concreteDeclaration? (.ofString text) c <;> rfl

theorem declarationsOf_plain {c : Concrete} {kind : String} (hkind : c.kind = kind)
    (hcall : kind ≠ "call_expression") (hbinding : kind ≠ "variable_declarator") :
    declarationsOf text [c] = declarationsOf text c.children := by
  have hnone : concreteDeclaration? (.ofString text) c = none := by
    simp [concreteDeclaration?, declaredRule, hkind, hcall, hbinding]
  rw [declarationsOf_singleton, hnone]
  rfl

theorem declarationsOf_drawnAll (hquiet : ∀ s ∈ ss, Quiet s)
    (hstands : Stands text p (writtenAll ss)) : declarationsOf text (drawnAll p ss) = [] := by
  induction ss generalizing p with
  | nil => rfl
  | cons s ss ih =>
    obtain ⟨hfirst, hrest⟩ := stands_append.mp hstands
    rw [drawnAll, declarationsOf_append, hquiet s List.mem_cons_self text p hfirst,
      ih (fun t ht => hquiet t (List.mem_cons_of_mem _ ht)) hrest]
    rfl

theorem declarationsOf_node {kind : String} {fields : List String}
    (hcall : kind ≠ "call_expression") (hbinding : kind ≠ "variable_declarator") :
    declarationsOf text ((Sketch.node kind fields ss).drawn p) =
      declarationsOf text (drawnAll p ss) :=
  declarationsOf_plain rfl hcall hbinding

theorem quiet_node {kind : String} {fields : List String} (hcall : kind ≠ "call_expression")
    (hbinding : kind ≠ "variable_declarator") (hquiet : ∀ s ∈ ss, Quiet s) :
    Quiet (.node kind fields ss) := by
  intro text p hstands
  rw [declarationsOf_node hcall hbinding]
  exact declarationsOf_drawnAll hquiet hstands

mutual

/-- No piece of a sketch is a call or a binding. -/
def isPlain : Sketch → Bool
  | .gap _ => true
  | .leaf kind _ _ _ => kind != "call_expression" && kind != "variable_declarator"
  | .node kind _ pieces =>
    kind != "call_expression" && kind != "variable_declarator" && arePlain pieces

/-- No piece of some sketches is a call or a binding. -/
def arePlain : List Sketch → Bool
  | [] => true
  | s :: ss => isPlain s && arePlain ss

end

mutual

theorem quiet_of_isPlain : ∀ {s : Sketch}, isPlain s = true → Quiet s
  | .gap _, _ => fun _ _ _ => rfl
  | .leaf kind _ _ _, h => by
    rw [isPlain, Bool.and_eq_true, bne_iff_ne, bne_iff_ne] at h
    exact fun _ _ _ => declarationsOf_plain rfl h.1 h.2
  | .node kind _ pieces, h => by
    rw [isPlain, Bool.and_eq_true, Bool.and_eq_true, bne_iff_ne, bne_iff_ne] at h
    exact quiet_node h.1.1 h.1.2 (quiet_of_arePlain h.2)

theorem quiet_of_arePlain : ∀ {ss : List Sketch}, arePlain ss = true → ∀ s ∈ ss, Quiet s
  | [], _ => fun _ h => absurd h List.not_mem_nil
  | s :: ss, h => by
    rw [arePlain, Bool.and_eq_true] at h
    exact List.forall_mem_cons.mpr ⟨quiet_of_isPlain h.1, quiet_of_arePlain h.2⟩

end

end Pieces

/-! ## Calls and bindings -/

/-- A token. -/
def token (text : String) : Sketch := .leaf text false [] text

/-- The list of the arguments of a call. -/
def argumentList (arguments : List Sketch) : Sketch :=
  .node "arguments" ["arguments"] (token "(" :: (arguments ++ [token ")"]))

/-- A call of something with arguments. -/
def callOf (fields : List String) (callee : Sketch) (arguments : List Sketch) : Sketch :=
  .node "call_expression" fields [callee, argumentList arguments]

/-- A call of a plain name. -/
def nameCall (fields : List String) (name : String) (arguments : List Sketch) : Sketch :=
  callOf fields (.leaf "identifier" true ["function"] name) arguments

/-- A call of a member of a call. -/
def memberCall (fields : List String) (object : String) (given : List Sketch) (property : String)
    (arguments : List Sketch) : Sketch :=
  callOf fields (.node "member_expression" ["function"] [nameCall ["object"] object given,
    token ".", .leaf "property_identifier" true ["property"] property]) arguments

/-- A name bound to a number. -/
def numberBinding (name number : String) : Sketch :=
  .node "variable_declarator" [] [.leaf "identifier" true ["name"] name, .gap " ", token "=",
    .gap " ", .leaf "number" true ["value"] number]

section Calls

variable {text : String} {p : Point} {fields : List String} {arguments : List Sketch}

theorem quiet_argumentList (harguments : ∀ s ∈ arguments, Quiet s) :
    Quiet (argumentList arguments) := by
  refine quiet_node (by decide) (by decide) ?_
  rw [List.forall_mem_cons, List.forall_mem_append]
  exact ⟨quiet_of_isPlain rfl, harguments, quiet_of_arePlain rfl⟩

theorem declaredRule_call {src : Source} {c f : Concrete} (hkind : c.kind = "call_expression")
    (hfunction : c.child? "function" = some f) : declaredRule src c = calleeRule src f := by
  rw [declaredRule, if_pos hkind, hfunction, Option.bind_some]

theorem declaredRule_number {src : Source} {c value : Concrete}
    (hkind : c.kind = "variable_declarator") (hvalue : c.child? "value" = some value)
    (hnumber : value.kind = "number") : declaredRule src c = none := by
  have hunwrap : unwrap value = value := unwrap_of_not_wrapper (by rw [hnumber]; rfl)
  rw [declaredRule, if_neg (by rw [hkind]; decide), if_pos hkind, hvalue, Option.bind_some, hunwrap,
    valueRule, if_neg (by rw [hnumber]; decide), if_neg (by rw [hnumber]; simp)]

theorem declarationsOf_callOf {callee : Sketch} {c : Concrete}
    (hc : (callOf fields callee arguments).drawn p = [c]) (hcallee : Quiet callee)
    (harguments : ∀ s ∈ arguments, Quiet s)
    (hstands : Stands text p (callOf fields callee arguments).written) :
    declarationsOf text [c] = (concreteDeclaration? (.ofString text) c).toList := by
  have hpieces : ∀ s ∈ [callee, argumentList arguments], Quiet s := by
    intro s hs
    rcases List.mem_pair.mp hs with rfl | rfl
    · exact hcallee
    · exact quiet_argumentList harguments
  have hbelow : declarationsOf text c.children = [] := by
    obtain rfl := List.singleton_inj.mp hc
    exact declarationsOf_drawnAll hpieces hstands
  rw [declarationsOf_singleton, hbelow, List.append_nil]

theorem declaredRule_nameCall {name : String} {c : Concrete}
    (hc : (nameCall fields name arguments).drawn p = [c]) (hname : Stands text p name.toList) :
    declaredRule (.ofString text) c = if name ∈ testCallees then some .testCall else none := by
  obtain ⟨f, hf⟩ : ∃ f, (Sketch.leaf "identifier" true ["function"] name).drawn p = [f] := ⟨_, rfl⟩
  have hrule : calleeRule (.ofString text) f =
      if name ∈ testCallees then some .testCall else none := by
    obtain rfl := List.singleton_inj.mp hf
    rw [calleeRule, text_of_stands rfl hname, String.ofList_toList]
    rfl
  rw [← hrule]
  obtain rfl := List.singleton_inj.mp hc
  obtain rfl := List.singleton_inj.mp hf
  exact declaredRule_call rfl rfl

theorem recognize_lower_nameCall {name : String} {c : Concrete}
    (hc : (nameCall fields name arguments).drawn p = [c]) (hname : Stands text p name.toList)
    (htest : name ∈ testCallees) : recognize (lower (.ofString text) c) = some .testCall := by
  have hkind : c.kind = "call_expression" := by
    obtain rfl := List.singleton_inj.mp hc
    rfl
  have hno : c.kind ≠ "variable_declarator" := by
    rw [hkind]
    decide
  rw [recognize_lower fun hbinding => absurd hbinding hno, declaredRule_nameCall hc hname,
    if_pos htest]

/-- **A call of a plain name** declares at most itself. -/
theorem declarationsOf_nameCall {name : String} (harguments : ∀ s ∈ arguments, Quiet s)
    (hstands : Stands text p (nameCall fields name arguments).written) :
    declarationsOf text ((nameCall fields name arguments).drawn p) =
      if name ∈ testCallees then [(.testCall, p.row + 1,
        max ((p.past (nameCall fields name arguments).written).row + 1) (p.row + 1))] else [] := by
  obtain ⟨c, hc⟩ : ∃ c, (nameCall fields name arguments).drawn p = [c] := ⟨_, rfl⟩
  have hname : Stands text p name.toList := (stands_append.mp hstands).1
  rw [hc, declarationsOf_callOf hc (quiet_of_isPlain rfl) harguments hstands,
    concreteDeclaration?, declaredRule_nameCall hc hname]
  obtain rfl := List.singleton_inj.mp hc
  split <;> rfl

theorem quiet_nameCall {name : String} (hname : name ∉ testCallees)
    (harguments : ∀ s ∈ arguments, Quiet s) : Quiet (nameCall fields name arguments) := by
  intro text p hstands
  rw [declarationsOf_nameCall harguments hstands, if_neg hname]

theorem quiet_memberCall {object property : String} {given : List Sketch}
    (hobject : object ∉ testCallees) (hgiven : ∀ s ∈ given, Quiet s)
    (harguments : ∀ s ∈ arguments, Quiet s) :
    Quiet (memberCall fields object given property arguments) := by
  intro text p hstands
  have hcallee : Quiet (.node "member_expression" ["function"] [nameCall ["object"] object given,
      token ".", .leaf "property_identifier" true ["property"] property]) := by
    refine quiet_node (by decide) (by decide) ?_
    rw [List.forall_mem_cons]
    exact ⟨quiet_nameCall hobject hgiven, quiet_of_arePlain rfl⟩
  obtain ⟨c, hc⟩ : ∃ c, (memberCall fields object given property arguments).drawn p = [c] :=
    ⟨_, rfl⟩
  have hrule : declaredRule (.ofString text) c = none := by
    obtain rfl := List.singleton_inj.mp hc
    exact Eq.trans (declaredRule_call rfl rfl) rfl
  rw [hc, declarationsOf_callOf hc hcallee harguments hstands, concreteDeclaration?, hrule]
  rfl

/-- A name that is bound to a number declares nothing. -/
theorem quiet_numberBinding (name number : String) : Quiet (numberBinding name number) := by
  intro text p hstands
  obtain ⟨c, hc⟩ : ∃ c, (numberBinding name number).drawn p = [c] := ⟨_, rfl⟩
  have hrule : declaredRule (.ofString text) c = none := by
    obtain rfl := List.singleton_inj.mp hc
    exact declaredRule_number rfl rfl rfl
  rw [hc, declarationsOf_singleton, concreteDeclaration?, hrule]
  obtain rfl := List.singleton_inj.mp hc
  exact declarationsOf_drawnAll (quiet_of_arePlain rfl) hstands

end Calls

end TestLocator.Locating
