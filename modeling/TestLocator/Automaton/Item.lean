import TestLocator.Grammar.Production
import Std.Data.HashMap

/-!
# Parse items

An item is a production with a dot: the steps before the dot have been read. Items that agree on
what lies after the dot, and on how the steps before it show in the tree, are one *item class*. An
automaton works with the numbers of these classes.

* `Flat.tokenIndex`, `Flat.tokenCount` — tokens as numbers: external tokens, the end, lexical ones;
* `Flat.inlineAt` — a production with an inlined step replaced by the bodies of its rule;
* `Flat.fieldsOf` — the fields that a hidden rule hands up to its parent;
* `ItemKey`, `Item`, `ItemTable.ofFlat` — the item classes of a grammar.
-/

namespace TestLocator.Grammar

/-! ## Tokens as numbers -/

/-- The number of tokens. -/
def Flat.tokenCount (g : Flat) : Nat := g.externals.size + 1 + g.tokens.size

/-- The number of the end of the text. -/
def Flat.eofIndex (g : Flat) : Nat := g.externals.size

/-- The number of a lexical token. -/
def Flat.lexicalIndex (g : Flat) (token : Nat) : Nat := g.externals.size + 1 + token

/-- The number of a token; an external token that is also a lexical one has the number of that. -/
def Flat.tokenIndex (g : Flat) : Symbol → Nat
  | .external i => i
  | .eof => g.eofIndex
  | .terminal i => g.lexicalIndex i
  | .rule _ => g.eofIndex

/-- The tokens that may stand anywhere, as the bits of a number. -/
def Flat.extraMask (g : Flat) : Nat := g.extras.foldl (fun m e => m ||| (1 <<< g.tokenIndex e)) 0

/-! ## Inlined rules -/

/-- Whether a step is replaced by the bodies of its rule. -/
def Flat.isInlined (g : Flat) (s : Step) : Bool := g.inlined.contains s.symbol

/-- A body in place of a step, which passes on its alias and field, and to the last step of the body
its precedence. -/
def Production.splice (p : Production) (k : Nat) (old : Step) (body : Production) : Production :=
  let inserted := body.steps.mapIdx fun i st =>
    let st := { st with shown := old.shown.or st.shown, field := old.field.or st.field }
    if i + 1 == body.steps.size
    then { st with prec := st.prec.or old.prec, assoc := st.assoc.or old.assoc }
    else st
  { steps := p.steps.extract 0 k ++ inserted ++ p.steps.extract (k + 1) p.steps.size
    dynamic := if body.dynamic.natAbs > p.dynamic.natAbs then body.dynamic else p.dynamic }

/-- The productions that stand for `p` when its step `k` is inlined, in `fuel` rounds. -/
def Flat.inlineRounds (g : Flat) (k : Nat) : Nat → Production → List Production
  | 0, p => [p]
  | fuel + 1, p =>
    match p.steps[k]? with
    | some st =>
      if g.isInlined st then
        match st.symbol with
        | .rule r =>
          (g.rules.getD r default).productions.toList.flatMap fun body =>
            g.inlineRounds k fuel (p.splice k st body)
        | _ => [p]
      else [p]
    | none => [p]

/-- The productions that stand for `p` when its step `k` is inlined, and none if it is not. -/
def Flat.inlineAt (g : Flat) (k : Nat) (p : Production) : List Production :=
  match p.steps[k]? with
  | some st => if g.isInlined st then (g.inlineRounds k g.rules.size p).eraseDups else []
  | none => []

/-! ## Fields of hidden rules -/

/-- Whether a symbol is a rule without a node of its own. -/
def Flat.isHiddenRule (g : Flat) : Symbol → Bool
  | .rule r => !(g.rules.getD r default).kind.isVisible
  | _ => false

/-- Whether a step leaves no node: a rule that has none of its own, without an alias, and not a
choice among nodes. `owned` are the aliases that symbols own. -/
def Flat.leavesNoNode (g : Flat) (owned : List (Symbol × Alias)) (st : Step) : Bool :=
  g.isHiddenRule st.symbol && st.shown.isNone && (owned.lookup st.symbol).isNone
    && !g.supertypes.contains st.symbol

/-- The fields inside each rule, from the fields found so far. -/
def Flat.fieldRound (g : Flat) (owned : List (Symbol × Alias)) (known : Array (List String)) :
    Array (List String) :=
  g.rules.mapIdx fun i r =>
    r.productions.foldl (fun acc p =>
      p.steps.foldl (fun acc st =>
        let own := st.field.toList
        let inner := match st.symbol with
          | .rule j => if g.leavesNoNode owned st then known.getD j [] else []
          | _ => []
        (own ++ inner).foldl (fun acc f => if acc.contains f then acc else acc ++ [f]) acc) acc)
      (known.getD i [])

/-- The fields inside each rule: its own, and those of the steps in it that leave no node. -/
def Flat.fieldsOf (g : Flat) (owned : List (Symbol × Alias)) : Array (List String) :=
  let rec go : Nat → Array (List String) → Array (List String)
    | 0, known => known
    | fuel + 1, known =>
      let next := g.fieldRound owned known
      if next == known then known else go fuel next
  go g.rules.size (g.rules.map fun _ => [])

end TestLocator.Grammar

namespace TestLocator.Automaton

open TestLocator.Grammar

/-! ## Item classes -/

/-- What tells two item classes apart. -/
structure ItemKey where
  /-- The rule; for the start of all parsing, one more than the last. -/
  lhs : Nat
  /-- The number of steps before the dot. -/
  dot : Nat
  dynamic : Int
  size : Nat
  /-- The strength of the step before the dot. -/
  prec : Option Prec
  assoc : Option Assoc
  /-- How the steps before the dot show: alias, field, and the symbol where it matters. -/
  past : List (Option Alias × Option String × Option Symbol)
  /-- The steps after the dot. -/
  future : List Step
  deriving BEq, Hashable, Inhabited

/-- What follows the dot of an item. -/
inductive Next where
  | finished
  | token (index : Nat)
  | rule (index : Nat)
  deriving BEq, Inhabited, Repr

/-- How a finished node is built from its children. -/
structure Shape where
  aliases : List (Option Alias)
  /-- For each field the children that carry it, and whether a hidden child hands it up. -/
  fields : List (String × Nat × Bool)
  deriving BEq, Hashable, Inhabited, Repr

/-- An item class. -/
structure Item where
  key : ItemKey
  next : Next
  /-- What follows the symbol after the dot, if anything does. -/
  afterNext : Next
  /-- The class with the dot one step on. -/
  successor : Nat
  /-- If the step after the dot is inlined: the classes that stand for this one. -/
  inlined : Array Nat
  /-- The production that represents the class. -/
  production : Production
  deriving Inhabited

/-- The classes of a grammar, and for each rule those with the dot in front. -/
structure ItemTable where
  items : Array Item
  heads : Array (Array Nat)
  /-- The class of the start of all parsing. -/
  start : Nat
  deriving Inhabited

/-- What a step leads to. -/
def Next.ofStep (g : Flat) : Option Step → Next
  | none => .finished
  | some st =>
    match st.symbol with
    | .rule r => .rule r
    | s => .token (g.tokenIndex s)

/-- The key of a production of a rule with a dot. -/
def ItemKey.of (g : Flat) (fields : Array (List String)) (lhs : Nat) (p : Production) (dot : Nat) :
    ItemKey :=
  let before := (p.steps.extract 0 dot).toList
  let inherits := before.any fun st =>
    match st.symbol with
    | .rule r => g.isHiddenRule st.symbol && !(fields.getD r []).isEmpty
    | _ => false
  { lhs, dot
    dynamic := p.dynamic
    size := p.steps.size
    prec := before.getLast?.bind (·.prec)
    assoc := before.getLast?.bind (·.assoc)
    past := before.map fun st => (st.shown, st.field, if inherits then some st.symbol else none)
    future := (p.steps.extract dot p.steps.size).toList }

/-- The classes found so far. -/
structure ItemPool where
  index : Std.HashMap ItemKey Nat := {}
  /-- For each class its rule, its production and its dot. -/
  found : Array (Nat × Production × Nat) := #[]
  keys : Array ItemKey := #[]
  deriving Inhabited

/-- The class of a production with a dot. -/
def ItemPool.classOf (pool : ItemPool) (g : Flat) (fields : Array (List String))
    (lhs : Nat) (p : Production) (dot : Nat) : Nat × ItemPool :=
  let key := ItemKey.of g fields lhs p dot
  match pool.index[key]? with
  | some i => (i, pool)
  | none =>
    let i := pool.found.size
    (i, { index := pool.index.insert key i
          found := pool.found.push (lhs, p, dot)
          keys := pool.keys.push key })

/-- The classes of several productions with one dot. -/
def ItemPool.classesOf (pool : ItemPool) (g : Flat) (fields : Array (List String))
    (lhs : Nat) (ps : List Production) (dot : Nat) : Array Nat × ItemPool :=
  ps.foldl (fun (acc, pool) p =>
    let (i, pool) := pool.classOf g fields lhs p dot
    (if acc.contains i then acc else acc.push i, pool)) (#[], pool)

/-- The classes with the dot in front of a production. -/
def ItemPool.headsOf (pool : ItemPool) (g : Flat) (fields : Array (List String))
    (lhs : Nat) (p : Production) : Array Nat × ItemPool :=
  match g.inlineAt 0 p with
  | [] => pool.classesOf g fields lhs [p] 0
  | ps => pool.classesOf g fields lhs ps 0

/-- Complete the classes from an index on: their successors and what stands for them. -/
def ItemPool.complete (g : Flat) (fields : Array (List String)) :
    Nat → Nat → ItemPool → Array Item → ItemPool × Array Item
  | 0, _, pool, done => (pool, done)
  | fuel + 1, i, pool, done =>
    match pool.found[i]? with
    | none => (pool, done)
    | some (lhs, p, dot) =>
      let key := pool.keys.getD i default
      let next := Next.ofStep g p.steps[dot]?
      let (succ, pool) :=
        if dot < p.steps.size then pool.classOf g fields lhs p (dot + 1) else (i, pool)
      let (inlined, pool) := pool.classesOf g fields lhs (g.inlineAt dot p) dot
      let item : Item :=
        { key, next
          afterNext := Next.ofStep g p.steps[dot + 1]?
          successor := succ
          inlined
          production := p }
      ItemPool.complete g fields fuel (i + 1) pool (done.push item)

/-- Order of classes: by the place of the dot, then the rule, then the order in which they were
found. -/
def ItemTable.sorted (items : Array Item) : Array Nat :=
  let keyed := items.mapIdx fun i it => (it.key.dot, it.key.lhs, it.key.dynamic, it.key.size, i)
  let less (a b : Nat × Nat × Int × Nat × Nat) : Bool :=
    if a.1 != b.1 then a.1 < b.1
    else if a.2.1 != b.2.1 then a.2.1 < b.2.1
    else if a.2.2.1 != b.2.2.1 then a.2.2.1 < b.2.2.1
    else if a.2.2.2.1 != b.2.2.2.1 then a.2.2.2.1 < b.2.2.2.1
    else a.2.2.2.2 < b.2.2.2.2
  (keyed.toList.mergeSort fun a b => less a b || a == b).toArray.map (·.2.2.2.2)

/-- More classes than this no grammar has. -/
def maxItems : Nat := 1000000

/-- The item classes of a grammar. -/
def ItemTable.ofFlat (g : Flat) (fields : Array (List String)) : ItemTable :=
  let startStep : Step := { symbol := .rule 0 }
  let (start, pool) := ({} : ItemPool).classOf g fields g.rules.size { steps := #[startStep] } 0
  let (heads, pool, _) := g.rules.foldl
    (fun (acc : Array (Array Nat) × ItemPool × Nat) r =>
      let (heads, pool, i) := acc
      if g.inlined.contains (.rule i) then (heads.push #[], pool, i + 1)
      else
        let (own, pool) := r.productions.foldl (fun (own, pool) p =>
          let (hs, pool) := pool.headsOf g fields i p
          (hs.foldl (fun own h => if own.contains h then own else own.push h) own, pool))
          (#[], pool)
        (heads.push own, pool, i + 1))
    (#[], pool, 0)
  let (_, items) := ItemPool.complete g fields maxItems 0 pool #[]
  let order := sorted items
  let rank := (order.zip (Array.range order.size)).foldl
    (fun (r : Array Nat) (old, new) => r.set! old new) (Array.replicate order.size 0)
  let move (i : Nat) := rank.getD i 0
  { items := order.map fun old =>
      let it := items.getD old default
      { it with successor := move it.successor, inlined := it.inlined.map move }
    heads := heads.map (·.map move)
    start := move start }

end TestLocator.Automaton
