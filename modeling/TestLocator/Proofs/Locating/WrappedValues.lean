import TestLocator.Locating.Rule
import TestLocator.Proofs.Syntax.Kept

/-!
# Values in wrappers

A value may stand in parentheses and type assertions, as many as one likes and with comments in
them. A binding of such a value is a binding of the value itself.

* `Wraps`, `Nest` — a wrapper, and some wrappers around a node;
* `wrapped?`, `strip` — a turn of the loop that strips a value, and some turns; `wraps_iff`,
  `nest_iff_strip` — how far they come;
* **`unwrap_eq_iff`** — the loop ends at the node that all wrappers are around;
* `lower_heldUnder`, `init?_lower`, `recognize_lower_declarator` — lowering a binding;
* **`unwrap_nest`** — bindings of values in wrappers.
-/

namespace TestLocator.Syntax

open TestLocator.Parsing

variable {n c e : Concrete} {k : Nat}

/-! ## Wrappers and turns -/

/-- A child that counts: it has a name and is no extra. -/
def IsPart (c : Concrete) : Prop := c.data.named = true ∧ c.data.extra = false

/-- A wrapper is around a node if that is the first child that counts. Comments and parentheses may
stand before it, and anything may stand behind it. -/
def Wraps (n inner : Concrete) : Prop :=
  isWrapper n.kind = true ∧ IsPart inner ∧
    ∃ before after, n.children = before ++ inner :: after ∧ ∀ c ∈ before, ¬ IsPart c

/-- So many wrappers, one around the other, are around a node. -/
inductive Nest (e : Concrete) : Nat → Concrete → Prop
  | bare : Nest e 0 e
  | wrap {k : Nat} {n inner : Concrete} : Wraps n inner → Nest e k inner → Nest e (k + 1) n

/-- One turn: from a wrapper to its first part. There is no turn from another node, nor from a
wrapper without parts. -/
def wrapped? (n : Concrete) : Option Concrete := if isWrapper n.kind then n.parts.head? else none

/-- So many turns, if there are as many. -/
def strip : Nat → Concrete → Option Concrete
  | 0, n => some n
  | k + 1, n => (wrapped? n).bind (strip k)

theorem wraps_iff : Wraps n c ↔ wrapped? n = some c := by
  have hpart : ∀ c : Concrete, (c.data.named && !c.data.extra) = true ↔ IsPart c := by
    simp [IsPart]
  -- the first of the parts is the first child that counts
  rw [Wraps, wrapped?, Option.ite_none_right_eq_some, Concrete.parts, List.head?_filter,
    List.find?_eq_some_iff_append]
  simp only [hpart, Bool.not_eq_true', ← Bool.not_eq_true]

theorem nest_iff_strip : Nest e k n ↔ strip k n = some e := by
  induction k generalizing n with
  | zero =>
    rw [strip, Option.some.injEq]
    exact ⟨fun h => by cases h; rfl, fun h => h ▸ .bare⟩
  | succ k ih =>
    rw [strip, Option.bind_eq_some_iff]
    constructor
    · rintro (_ | ⟨hwraps, hinner⟩)
      exact ⟨_, wraps_iff.mp hwraps, ih.mp hinner⟩
    · rintro ⟨inner, hwrapped, hinner⟩
      exact .wrap (wraps_iff.mpr hwrapped) (ih.mpr hinner)

/-- A turn leads to a smaller tree. -/
theorem size_lt_of_wrapped? (h : wrapped? n = some c) : c.size < n.size := by
  obtain ⟨-, hparts⟩ := Option.ite_none_right_eq_some.mp h
  exact Concrete.size_lt_of_mem_children
    (Concrete.mem_children_of_mem_parts (List.mem_of_head? hparts))

theorem add_size_le_of_nest (h : Nest e k n) : k + e.size ≤ n.size := by
  induction h with
  | bare => omega
  | wrap hwraps _ ih =>
    have := size_lt_of_wrapped? (wraps_iff.mp hwraps)
    omega

/-! ## The loop -/

theorem unwrap_of_wrapped? (h : wrapped? n = some c) : unwrap n = unwrap c := by
  obtain ⟨hkind, hparts⟩ := Option.ite_none_right_eq_some.mp h
  obtain ⟨rest, hparts⟩ := List.head?_eq_some_iff.mp hparts
  exact unwrap_of_wrapper hkind hparts

theorem unwrap_of_wrapped?_eq_none (h : wrapped? n = none) : unwrap n = n := by
  rw [unwrap]
  split
  · split
    · rfl
    · rename_i hkind inner rest hparts
      rw [wrapped?, if_pos hkind, hparts] at h
      cases h
  · rfl

theorem exists_nest_unwrap (n : Concrete) :
    ∃ k, Nest (unwrap n) k n ∧ wrapped? (unwrap n) = none := by
  induction n using Concrete.inductionOnSize with
  | h n ih =>
    cases hturn : wrapped? n with
    | none =>
      rw [unwrap_of_wrapped?_eq_none hturn]
      exact ⟨0, .bare, hturn⟩
    | some c =>
      obtain ⟨k, hnest, hend⟩ := ih c (size_lt_of_wrapped? hturn)
      rw [unwrap_of_wrapped? hturn]
      exact ⟨k + 1, .wrap (wraps_iff.mpr hturn) hnest, hend⟩

/-- **Stripping a value** gives the node that all the wrappers are around. -/
theorem unwrap_eq_iff : unwrap n = e ↔ wrapped? e = none ∧ ∃ k, Nest e k n := by
  constructor
  · rintro rfl
    obtain ⟨k, hnest, hend⟩ := exists_nest_unwrap n
    exact ⟨hend, k, hnest⟩
  · rintro ⟨hend, k, hnest⟩
    induction hnest with
    | bare => exact unwrap_of_wrapped?_eq_none hend
    | wrap hwraps _ ih => exact (unwrap_of_wrapped? (wraps_iff.mp hwraps)).trans ih

/-! ## Bindings -/

/-- A node as another parent holds it. -/
def heldUnder (fields handedUp : List String) (n : Concrete) : Concrete :=
  .node { n.data with fields := fields, handedUp := handedUp } n.children

theorem lower_heldUnder (src : Source) (fields handedUp : List String) (n : Concrete) :
    lower src (heldUnder fields handedUp n) = lower src n := by
  obtain ⟨d, cs⟩ := n
  -- lowering reads the fields of the nodes below, never those of the node itself
  conv_lhs => rw [lower]
  conv_rhs => rw [lower]
  rfl

/-- The value that a binding binds. -/
def Node.init? : Node → Option Node
  | .declarator _ _ init => init
  | _ => none

variable {src : Source} {d : Concrete}

theorem lower_declarator_cases (src : Source) (hkind : d.kind = "variable_declarator") :
    (∃ name, d.child? "name" = some name ∧ lower src d = .declarator (spanOf d) (lower src name)
      ((d.child? "value").map fun v => lower src (unwrap v))) ∨
    (d.child? "name" = none ∧ lower src d = .other (spanOf d) d.kind (lowerAll src d.parts)) := by
  cases hname : d.child? "name" with
  | some name => exact .inl ⟨name, rfl, lower_declarator hkind hname⟩
  | none =>
    have hne : ∀ kind, kind ≠ "variable_declarator" → d.kind ≠ kind := fun kind h e =>
      h (e.symm.trans hkind)
    have hfunction : d.kind ∉ functionKinds := by rw [hkind]; decide
    exact .inr ⟨rfl, lower_other (fun e => absurd e (hne _ (by decide)))
      (fun e => absurd e (hne _ (by decide))) (hne _ (by decide)) (fun _ => hname) hfunction⟩

theorem init?_lower (src : Source) {value : Concrete} (hkind : d.kind = "variable_declarator")
    (hvalue : d.child? "value" = some value) : (lower src d).init? =
      if (d.child? "name").isSome then some (lower src (unwrap value)) else none := by
  obtain ⟨name, hname, h⟩ | ⟨hname, h⟩ := lower_declarator_cases src hkind
  · rw [h, hname, hvalue]
    rfl
  · rw [h, hname]
    rfl

end TestLocator.Syntax

namespace TestLocator.Locating

open TestLocator.Parsing TestLocator.Syntax

theorem recognize_lower_declarator {src : Source} {d : Concrete}
    (hkind : d.kind = "variable_declarator") :
    recognize (lower src d) = (lower src d).init?.bind recognizeInit := by
  obtain ⟨name, -, h⟩ | ⟨-, h⟩ := lower_declarator_cases src hkind
  · rw [h, Node.init?]
    cases d.child? "value" <;> rfl
  · rw [h]
    rfl

/-- **Wrappers around a value** make no difference, whatever their number. -/
theorem unwrap_nest (src : Source) {e value : Concrete} {k : Nat} (he : isWrapper e.kind = false)
    (h : Nest e k value) :
    (strip k value = some e ∧ wrapped? e = none ∧ k < value.size) ∧ unwrap value = e ∧
    ∀ (d d' : Concrete) (fields handedUp : List String), d.kind = "variable_declarator" →
      d'.kind = "variable_declarator" → d.child? "value" = some value →
      d'.child? "value" = some (heldUnder fields handedUp e) →
      ((d.child? "name").isSome ↔ (d'.child? "name").isSome) →
      (lower src d).init? = (lower src d').init? ∧
      ((d.child? "name").isSome → (lower src d).init? = some (lower src e)) ∧
      recognize (lower src d) = recognize (lower src d') := by
  have hend : wrapped? e = none := by rw [wrapped?, he, if_neg Bool.false_ne_true]
  have hunwrap : unwrap value = e := unwrap_eq_iff.mpr ⟨hend, k, h⟩
  have hturns : k < value.size := by
    have := add_size_le_of_nest h
    have := e.size_pos
    omega
  refine ⟨⟨nest_iff_strip.mp h, hend, hturns⟩, hunwrap, ?_⟩
  intro d d' fields handedUp hd hd' hvalue hvalue' hnames
  have hbare : unwrap (heldUnder fields handedUp e) = heldUnder fields handedUp e :=
    unwrap_of_not_wrapper he
  have hinit := init?_lower src hd hvalue
  have hinit' := init?_lower src hd' hvalue'
  rw [hunwrap] at hinit
  rw [hbare, lower_heldUnder] at hinit'
  have hsame : (lower src d).init? = (lower src d').init? := by
    rw [hinit, hinit']
    exact if_congr hnames rfl rfl
  refine ⟨hsame, fun hname => ?_, ?_⟩
  · rw [hinit, if_pos hname]
  · rw [recognize_lower_declarator hd, recognize_lower_declarator hd', hsame]

/-- A script that binds a function in wrappers of each kind. -/
def wrappedSource : Source := .ofString "const f = (/* c */ x => 1)! as T satisfies T;"

/-- A node of a script of one line, from one column to another. -/
def lineNode (kind : String) (fields : List String) (start stop : Nat) (children : List Concrete) :
    Concrete :=
  .node { kind, fields, start := ⟨start, 0, start⟩, stop := ⟨stop, 0, stop⟩ } children

/-- A piece of a script of one line that is no part: a token, or a comment. -/
def linePiece (kind : String) (extra : Bool) (start stop : Nat) : Concrete :=
  .node { kind, named := extra, extra, start := ⟨start, 0, start⟩, stop := ⟨stop, 0, stop⟩ } []

/-- The function of the script. -/
def sampleArrow : Concrete :=
  lineNode "arrow_function" [] 19 25
    [lineNode "identifier" ["parameter"] 19 20 [], linePiece "=>" false 21 23,
      lineNode "number" ["body"] 24 25 []]

/-- The function in its wrappers. -/
def sampleWrapped : Concrete :=
  lineNode "satisfies_expression" ["value"] 10 44
    [lineNode "as_expression" [] 10 32
      [lineNode "non_null_expression" [] 10 27
        [lineNode "parenthesized_expression" [] 10 26
          [linePiece "(" false 10 11, linePiece "comment" true 11 18, sampleArrow,
            linePiece ")" false 25 26],
          linePiece "!" false 26 27],
        linePiece "as" false 28 30, lineNode "type_identifier" [] 31 32 []],
      linePiece "satisfies" false 33 42, lineNode "type_identifier" [] 43 44 []]

/-- The name `f` bound to a value. -/
def bindingOf (value : Concrete) : Concrete :=
  lineNode "variable_declarator" [] 6 44
    [lineNode "identifier" ["name"] 6 7 [], linePiece "=" false 8 9, value]

/-- Four wrappers, one of each kind, with a comment in the innermost. -/
theorem unwrap_nest_each_kind :
    isWrapper sampleArrow.kind = false ∧ Nest sampleArrow 4 sampleWrapped ∧
      unwrap sampleWrapped = sampleArrow ∧
      (lower wrappedSource (bindingOf sampleWrapped)).init? = some (lower wrappedSource sampleArrow) ∧
      recognize (lower wrappedSource (bindingOf sampleWrapped)) =
        recognize (lower wrappedSource (bindingOf (heldUnder ["value"] [] sampleArrow))) ∧
      recognize (lower wrappedSource (bindingOf sampleWrapped)) = some .functionBinding := by
  have he : isWrapper sampleArrow.kind = false := by decide
  have hnest : Nest sampleArrow 4 sampleWrapped := nest_iff_strip.mpr rfl
  obtain ⟨-, hunwrap, hbinding⟩ := unwrap_nest wrappedSource he hnest
  obtain ⟨-, hinit, hdeclares⟩ := hbinding (bindingOf sampleWrapped)
    (bindingOf (heldUnder ["value"] [] sampleArrow)) ["value"] [] rfl rfl rfl rfl Iff.rfl
  obtain ⟨form, hfunction⟩ : ∃ form, lower wrappedSource sampleArrow =
      .function (spanOf sampleArrow) form (lowerAll wrappedSource sampleArrow.parts) :=
    lower_function (by decide)
  refine ⟨he, hnest, hunwrap, hinit rfl, hdeclares, ?_⟩
  rw [recognize_lower_declarator rfl, hinit rfl, Option.bind_some, hfunction]
  rfl

end TestLocator.Locating
