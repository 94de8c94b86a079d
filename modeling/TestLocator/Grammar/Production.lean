import TestLocator.Grammar.Token

/-!
# Productions

Every rule becomes a list of productions, each a list of steps. A repetition becomes a rule of its
own that is either its content or two repetitions in a row.

* `Step`, `Production`, `RuleDef`;
* `Rule.expandRepeats` — repetitions as rules;
* `Rule.productions` — a rule without repetitions as productions;
* `Flat`, `Tokenized.flatten` — the whole grammar as productions;
* `Flat.defaultAliases` — aliases that a symbol always carries belong to the symbol.
-/

namespace TestLocator.Grammar

/-- One step of a production. -/
structure Step where
  symbol : Symbol
  prec : Option Prec := none
  assoc : Option Assoc := none
  /-- The alias under which the tree shows the step. -/
  shown : Option Alias := none
  /-- The field under which the parent holds it. -/
  field : Option String := none
  deriving Repr, DecidableEq, Inhabited, Hashable

/-- One way to build a node: its steps, and its weight between finished readings. -/
structure Production where
  steps : Array Step := #[]
  dynamic : Int := 0
  deriving Repr, DecidableEq, Inhabited, Hashable

/-- A rule as productions. -/
structure RuleDef where
  name : String
  kind : Visibility
  productions : Array Production
  deriving Inhabited

/-! ## Repetitions -/

/-- The repetitions that have become rules. -/
structure RepeatPool where
  /-- The number of rules before the first of these. -/
  base : Nat
  /-- The content of each repetition with its symbol. -/
  known : List (Rule Symbol × Symbol) := []
  added : Array Variable := #[]
  /-- The number of repetitions in the current rule. -/
  count : Nat := 0
  deriving Inhabited

/-- Two repetitions in a row, or the content. -/
def Rule.twice (self : Symbol) (content : Rule Symbol) : Rule Symbol :=
  oneOf [seq [ref self, ref self], content]

/-- The rule of a repetition: an earlier one with the same content, or a new one. -/
def RepeatPool.add (pool : RepeatPool) (owner : String) (content : Rule Symbol) :
    Rule Symbol × RepeatPool :=
  match pool.known.find? fun k => k.1 == content with
  | some (_, s) => (.ref s, pool)
  | none =>
    let s := Symbol.rule (pool.base + pool.added.size)
    let n := pool.count + 1
    (.ref s, { pool with
      known := (content, s) :: pool.known
      added := pool.added.push ⟨s!"{owner}_repeat{n}", .auxiliary, content.twice s⟩
      count := n })

mutual

/-- Replace the repetitions of a rule by references to rules of their own. -/
def Rule.expandRepeats (owner : String) : Rule Symbol → StateM RepeatPool (Rule Symbol)
  | .repeat1 r => fun pool => let (r, p) := r.expandRepeats owner pool; p.add owner r
  | .seq rs => fun pool => let (rs, p) := Rule.expandRepeatsAll owner rs pool; (.seq rs, p)
  | .choice rs => fun pool => let (rs, p) := Rule.expandRepeatsAll owner rs pool; (.choice rs, p)
  | .marked m r => fun pool => let (r, p) := r.expandRepeats owner pool; (.marked m r, p)
  | .blank => fun pool => (.blank, pool)
  | .text s => fun pool => (.text s, pool)
  | .chars c => fun pool => (.chars c, pool)
  | .ref s => fun pool => (.ref s, pool)

/-- Replace the repetitions of some rules. -/
def Rule.expandRepeatsAll (owner : String) :
    List (Rule Symbol) → StateM RepeatPool (List (Rule Symbol))
  | [] => fun pool => ([], pool)
  | r :: rs => fun pool =>
    let (r, p) := r.expandRepeats owner pool
    let (rs, p) := Rule.expandRepeatsAll owner rs p
    (r :: rs, p)

end

/-- Replace the repetitions of the rule at an index. A hidden rule that is one repetition repeats
itself. -/
def Variable.expandRepeats (v : Variable) (index : Nat) (pool : RepeatPool) :
    Variable × RepeatPool :=
  let pool := { pool with count := 0 }
  match v.kind, v.body with
  | .hidden, .repeat1 content =>
    let (r, p) := content.expandRepeats v.name pool
    ({ v with kind := .auxiliary, body := r.twice (.rule index) }, p)
  | _, body =>
    let (r, p) := body.expandRepeats v.name pool
    ({ v with body := r }, p)

/-- Replace all repetitions; the new rules follow the old ones. -/
def expandAllRepeats (vs : Array Variable) : Array Variable :=
  let (done, pool) := (vs.zip (Array.range vs.size)).foldl
    (fun (acc, p) (v, i) => let (v, p) := v.expandRepeats i p; (acc.push v, p))
    ((#[] : Array Variable), ({ base := vs.size } : RepeatPool))
  done ++ pool.added

/-! ## Choices -/

mutual

/-- A rule without repetitions as a list of rules without choices. -/
def Rule.branches : Rule Symbol → List (Rule Symbol)
  | .seq rs => Rule.branchesSeq [.blank] rs
  | .choice rs => Rule.branchesChoice rs
  | .marked m r => r.branches.map (.marked m)
  | .blank => [.blank]
  | .text s => [.text s]
  | .chars c => [.chars c]
  | .ref s => [.ref s]
  | .repeat1 r => [.repeat1 r]

/-- The branches of a sequence, after those of what stands before. -/
def Rule.branchesSeq (before : List (Rule Symbol)) : List (Rule Symbol) → List (Rule Symbol)
  | [] => before
  | r :: rs =>
    let own := r.branches
    Rule.branchesSeq (before.flatMap fun b => own.map fun o => .seq [b, o]) rs

/-- The branches of some options. -/
def Rule.branchesChoice : List (Rule Symbol) → List (Rule Symbol)
  | [] => []
  | r :: rs => r.branches ++ Rule.branchesChoice rs

end

/-! ## Steps -/

/-- The marks in force around a part of a rule. -/
structure MarkScope where
  prec : Option Prec := none
  assoc : Option Assoc := none
  shown : Option Alias := none
  field : Option String := none

/-- The scope inside marks. -/
def MarkScope.enter (s : MarkScope) (m : Marks) : MarkScope where
  prec := m.prec.or s.prec
  assoc := m.assoc.or s.assoc
  shown := m.shown.or s.shown
  field := m.field.or s.field

mutual

/-- Add the steps of a rule without choices to a production. A mark on part of a sequence ends with
that part: its last step binds like what is around it. Returns whether a step was added. -/
def Rule.appendSteps (scope : MarkScope) (atEnd : Bool) :
    Rule Symbol → Production → Production × Bool
  | .ref s, p =>
    ({ p with steps := p.steps.push ⟨s, scope.prec, scope.assoc, scope.shown, scope.field⟩ }, true)
  | .seq rs, p => Rule.appendStepsAll scope atEnd rs p
  | .marked m r, p =>
    let p := if m.dynamic.natAbs > p.dynamic.natAbs then { p with dynamic := m.dynamic } else p
    let (p, pushed) := r.appendSteps (scope.enter m) atEnd p
    if pushed && !atEnd then
      ({ p with steps := p.steps.modify (p.steps.size - 1) fun st =>
        let st := if m.prec.isSome then { st with prec := scope.prec } else st
        if m.assoc.isSome then { st with assoc := scope.assoc } else st }, pushed)
    else (p, pushed)
  | _, p => (p, false)

/-- Add the steps of a sequence. -/
def Rule.appendStepsAll (scope : MarkScope) (atEnd : Bool) :
    List (Rule Symbol) → Production → Production × Bool
  | [], p => (p, false)
  | r :: rs, p =>
    let (p, a) := r.appendSteps scope (atEnd && rs.isEmpty) p
    let (p, b) := Rule.appendStepsAll scope atEnd rs p
    (p, a || b)

end

/-- The productions of a rule without repetitions, without repeats. -/
def Rule.productions (r : Rule Symbol) : Array Production :=
  r.branches.foldl (fun acc b =>
    let p := (b.appendSteps {} true {}).1
    if acc.contains p then acc else acc.push p) #[]

/-- A grammar as productions. -/
structure Flat where
  rules : Array RuleDef
  tokens : Array TokenDef
  externals : Array ExternalDef
  extras : List Symbol
  separators : List (Rule Symbol)
  inlined : List Symbol
  supertypes : List Symbol
  precedences : List (List PrecEntry)
  word : Nat
  deriving Inhabited

/-- The whole grammar as productions. -/
def Tokenized.flatten (t : Tokenized) : Flat where
  rules := (expandAllRepeats t.definitions).map fun v => ⟨v.name, v.kind, v.body.productions⟩
  tokens := t.tokens
  externals := t.externals
  extras := t.extras
  separators := t.separators
  inlined := t.inlined
  supertypes := t.supertypes
  precedences := t.precedences
  word := t.word

/-! ## Aliases -/

/-- The aliases of a symbol with their counts, or that it also stands without one. -/
structure AliasUse where
  plain : Bool := false
  counts : List (Alias × Nat) := []
  deriving Inhabited

/-- Note one use of a symbol. -/
def AliasUse.note (u : AliasUse) : Option Alias → AliasUse
  | none => { u with plain := true }
  | some a =>
    if u.counts.any (·.1 == a)
    then { u with counts := u.counts.map fun c => if c.1 == a then (c.1, c.2 + 1) else c }
    else { u with counts := u.counts ++ [(a, 1)] }

/-- The alias that a symbol owns: it never stands plain, and this is the first of its most frequent
aliases. -/
def AliasUse.owned (u : AliasUse) : Option Alias :=
  if u.plain then none
  else
    (u.counts.foldl (fun (best : Option (Alias × Nat)) c =>
      match best with
      | some b => if b.2 < c.2 then some c else best
      | none => some c) none).map (·.1)

/-- The uses of every symbol. -/
def Flat.aliasUses (g : Flat) : List (Symbol × AliasUse) :=
  let note (acc : List (Symbol × AliasUse)) (s : Symbol) (a : Option Alias) :=
    if acc.any (·.1 == s)
    then acc.map fun e => if e.1 == s then (s, e.2.note a) else e
    else acc ++ [(s, ({} : AliasUse).note a)]
  let steps := g.rules.toList.flatMap fun r => r.productions.toList.flatMap fun p => p.steps.toList
  let uses := steps.foldl (fun acc st =>
    if g.inlined.contains st.symbol then acc else note acc st.symbol st.shown) []
  g.extras.foldl (fun acc s => note acc s none) uses

/-- Take the owned aliases off the steps, but where another production of the rule needs the same
alias at the same place for a symbol that does not own it. -/
def RuleDef.dropOwned (owned : List (Symbol × Alias)) (r : RuleDef) : RuleDef :=
  let owns (st : Step) : Bool := st.shown.isSome && owned.lookup st.symbol == st.shown
  let keep (i j : Nat) (st : Step) : Bool :=
    (r.productions.zip (Array.range r.productions.size)).any fun (p, k) =>
      k != i && match p.steps[j]? with
        | some other => other.shown == st.shown && owned.lookup other.symbol != st.shown
        | none => false
  { r with productions := r.productions.mapIdx fun i p =>
      { p with steps := p.steps.mapIdx fun j st =>
        if owns st && !keep i j st then { st with shown := none } else st } }

/-- The aliases that symbols own, and the grammar without them. -/
def Flat.defaultAliases (g : Flat) : Flat × List (Symbol × Alias) :=
  let owned := g.aliasUses.filterMap fun (s, u) => u.owned.map fun a => (s, a)
  ({ g with rules := g.rules.map (·.dropOwned owned) }, owned)

end TestLocator.Grammar
