import TestLocator.Automaton.Lookahead

/-!
# The automaton of a grammar

Every state is a set of items with the tokens that may follow each. From a state the automaton goes
on by a token or by a finished rule, and where an item is finished it may reduce.

* `Reduction`, `Cell`, `State` — what a state does on each token;
* `comparePrec` — which of two readings binds stronger;
* `Clash`, `Clash.settle` — which of the readings of a conflict stay open;
* `Blueprint`, `Blueprint.ofFlat` — all states, before any are merged.

State `0` is for recovery from errors, state `1` is the start.
-/

namespace TestLocator.Automaton

open TestLocator.Grammar

/-- A finished rule that becomes a node. -/
structure Reduction where
  rule : Nat
  count : Nat
  dynamic : Int
  /-- The number of the node's shape. -/
  shape : Nat
  deriving BEq, Hashable, Inhabited, Repr

/-- What a state does on a token: reductions, by the number of their list, and going on to a state.
A going on may be one more round of a repetition. -/
structure Cell where
  reductions : Nat := 0
  shift : Option Nat := none
  repetition : Bool := false
  deriving BEq, Inhabited, Repr

/-- A state: its items without what follows them, by number, its cells by ascending tokens and its
moves over rules. -/
structure State where
  core : Nat
  tokens : Array Nat
  cells : Array Cell
  rules : Array Nat
  targets : Array Nat
  deriving Inhabited

/-! ## Precedence -/

/-- Whether an entry of a precedence order speaks of a reading of some rules. -/
def PrecEntryMatches (names : Array String) (e : PrecEntry) (p : Option Prec) (rules : List Nat) :
    Bool :=
  match e with
  | .prec n => p == some (.named n)
  | .rule n => rules.any fun r => names.getD r "" == n

/-- Walk one precedence order. -/
def compareIn (names : Array String) (p : Option Prec) (ps : List Nat) (q : Option Prec)
    (qs : List Nat) : Bool → Bool → List PrecEntry → Option Ordering
  | _, _, [] => none
  | sawLeft, sawRight, e :: rest =>
    if PrecEntryMatches names e p ps then
      if sawRight then some .lt else compareIn names p ps q qs true sawRight rest
    else if PrecEntryMatches names e q qs then
      if sawLeft then some .gt else compareIn names p ps q qs sawLeft true rest
    else compareIn names p ps q qs sawLeft sawRight rest

/-- Which of two readings binds stronger: by their levels, else by the first order that speaks of
both. -/
def comparePrec (names : Array String) (orders : List (List PrecEntry))
    (p : Option Prec) (ps : List Nat) (q : Option Prec) (qs : List Nat) : Ordering :=
  let named := (orders.findSome? fun l => compareIn names p ps q qs false false l).getD .eq
  match p, q with
  | some (.level a), some (.level b) => if a != 0 || b != 0 then compare a b else named
  | some (.level a), none => if a != 0 then compare a 0 else named
  | none, some (.level b) => if b != 0 then compare 0 b else named
  | _, _ => named

/-! ## Plans -/

/-- What is known of a grammar before its states are built. -/
structure Plan where
  flat : Flat
  table : ItemTable
  names : Array String
  auxiliary : Array Bool
  first : Array Nat
  /-- For each rule what a dot in front of it brings along; the sets by number. -/
  arrivals : Array (Array (Nat × Nat × Bool))
  /-- For each rule its heads by what follows their dot: the number of the symbol, tokens before
  rules, and the classes after it. -/
  moves : Array (Array (Nat × Array Nat))
  /-- The reduction of each finished class. -/
  reductionOf : Array Nat
  reductions : Array Reduction
  shapes : Array Shape
  tokenCount : Nat
  deriving Inhabited

/-- The shape of a finished production. -/
def Shape.of (g : Flat) (fields : Array (List String)) (p : Production) : Shape :=
  let aliases := p.steps.toList.map (·.shown)
  let aliases := (aliases.reverse.dropWhile (·.isNone)).reverse
  let entries := (p.steps.toList.zip (List.range p.steps.size)).flatMap fun (st, i) =>
    let own := st.field.toList.map fun f => (f, i, false)
    let inner := match st.symbol with
      | .rule r => if g.isHiddenRule st.symbol then
          (fields.getD r []).map fun f => (f, i, true) else []
      | _ => []
    own ++ inner
  { aliases, fields := entries.mergeSort fun a b => decide (a.1 < b.1) || a.1 == b.1 }

/-- Number the distinct entries of an array in the order of their first appearance. -/
def numbered {α : Type} [BEq α] [Hashable α] (first : α) (xs : Array α) : Array α × Array Nat :=
  let start : Std.HashMap α Nat := ({} : Std.HashMap α Nat).insert first 0
  let (all, ids, _) := xs.foldl
    (fun (acc : Array α × Array Nat × Std.HashMap α Nat) x =>
      match acc.2.2[x]? with
      | some i => (acc.1, acc.2.1.push i, acc.2.2)
      | none => (acc.1.push x, acc.2.1.push acc.1.size, acc.2.2.insert x acc.1.size))
    (#[first], #[], start)
  (all, ids)

/-- The number of what follows a dot: tokens before rules, and the end of an item last. -/
def Next.code (tokenCount ruleCount : Nat) : Next → Nat
  | .token t => t
  | .rule r => tokenCount + r
  | .finished => tokenCount + ruleCount

/-- Group heads by what follows their dot. A finished head stands for itself. -/
def groupHeads (table : ItemTable) (tokenCount ruleCount : Nat) (heads : Array Nat) :
    Array (Nat × Array Nat) :=
  let keyed := heads.toList.map fun h =>
    let it := table.items.getD h default
    let code := it.next.code tokenCount ruleCount
    (code, if it.next == .finished then h else it.successor)
  let sorted := keyed.mergeSort fun a b => decide (a.1 ≤ b.1)
  sorted.foldl (fun acc (c, h) =>
    match acc.back? with
    | some (d, hs) => if c == d then acc.pop.push (d, hs.push h) else acc.push (c, #[h])
    | none => acc.push (c, #[h])) #[]

/-- Everything that the states are built from, with the token sets met so far. -/
def Plan.ofFlat (g : Flat) (owned : List (Symbol × Alias)) : Plan × SetPool :=
  let fields := g.fieldsOf owned
  let table := ItemTable.ofFlat g fields
  let first := edgeSets g fun p => p.steps[0]?
  let (arrivals, pool) := (Flat.arrivals g first).foldl
    (fun (acc : Array (Array (Nat × Nat × Bool)) × SetPool) as =>
      let (own, pool) := as.foldl (fun (own, (pool : SetPool)) a =>
        let (i, pool) := pool.intern a.follow
        (own.push (a.rule, i, a.inherits), pool)) (#[], acc.2)
      (acc.1.push own, pool)) (#[], {})
  let plainShape : Shape := ⟨[], []⟩
  let (shapes, shapeIds) := numbered plainShape
    (table.items.map fun it => if it.next == .finished then Shape.of g fields it.production
      else plainShape)
  let reductionList := table.items.mapIdx fun i it =>
    ({ rule := it.key.lhs, count := it.key.dot, dynamic := it.key.dynamic
       shape := shapeIds.getD i 0 } : Reduction)
  let (reductions, ids) := numbered ⟨g.rules.size, 1, 0, 0⟩
    (reductionList.mapIdx fun i r =>
      if (table.items.getD i default).next == .finished then r else ⟨g.rules.size, 1, 0, 0⟩)
  ({ flat := g
     table
     names := g.rules.map (·.name)
     auxiliary := g.rules.map fun r => r.kind == .auxiliary
     first
     arrivals
     moves := table.heads.map (groupHeads table g.tokenCount g.rules.size)
     reductionOf := ids
     reductions
     shapes
     tokenCount := g.tokenCount }, pool)

/-! ## Conflicts -/

/-- The readings of a conflict: the strengths of those that go on, and of those that end here. -/
structure Clash where
  /-- Strength and rule of each item that goes on by the token. -/
  going : List (Option Prec × Nat)
  /-- The rules of all items that take part. -/
  rules : List Nat
  /-- Strength and rules of the reductions. -/
  ending : Option Prec
  endingRules : List Nat
  leftAssoc : Bool
  rightAssoc : Bool
  nonAssoc : Bool

/-- What is left of a cell after its conflict. -/
def Clash.settle (plan : Plan) (c : Clash) (cell : Cell) : Cell :=
  match cell.shift with
  | none => cell
  | some _ =>
    let aux := match c.rules with
      | [] => false
      | r :: rest => plan.auxiliary.getD r false && rest.all (· == r)
    if aux then { cell with repetition := true }
    else
      let orders := c.going.map fun (p, r) =>
        comparePrec plan.names plan.flat.precedences p [r] c.ending c.endingRules
      match orders.contains .lt, orders.contains .gt with
      | true, false => { cell with shift := none }
      | false, true => { cell with reductions := 0 }
      | true, true => cell
      | false, false =>
        match c.leftAssoc, c.nonAssoc, c.rightAssoc with
        | true, false, false => { cell with shift := none }
        | false, false, true => { cell with reductions := 0 }
        | _, _, _ => cell

/-! ## States -/

/-- Items of a state are kept as `class * limit + set`. -/
def packItem (cls set : Nat) : Nat := cls * SetPool.limit + set

/-- The states built so far. -/
structure Builder where
  pool : SetPool
  /-- The items of each state. -/
  kernels : Array (Array Nat)
  index : Std.HashMap (Array Nat) Nat
  cores : Std.HashMap (Array Nat) Nat
  states : Array State
  lists : Array (Array Nat)
  listIndex : Std.HashMap (Array Nat) Nat
  deriving Inhabited

/-- The state of some items. -/
def Builder.stateOf (b : Builder) (kernel : Array Nat) : Nat × Builder :=
  match b.index[kernel]? with
  | some i => (i, b)
  | none =>
    let i := b.kernels.size
    (i, { b with kernels := b.kernels.push kernel, index := b.index.insert kernel i })

/-- The number of the items of a state without what follows them. -/
def Builder.coreOf (b : Builder) (kernel : Array Nat) : Nat × Builder :=
  let key := kernel.map (· / SetPool.limit)
  match b.cores[key]? with
  | some i => (i, b)
  | none =>
    let i := b.cores.size
    (i, { b with cores := b.cores.insert key i })

/-- The number of a list of reductions; `0` is the empty list. -/
def Builder.listOf (b : Builder) (list : Array Nat) : Nat × Builder :=
  match b.listIndex[list]? with
  | some i => (i, b)
  | none =>
    let i := b.lists.size
    (i, { b with lists := b.lists.push list, listIndex := b.listIndex.insert list i })

/-- Put an item into items that ascend by class. -/
def insertItem (pool : SetPool) (item : Nat) (items : Array Nat) : Array Nat × SetPool := Id.run do
  let cls := item / SetPool.limit
  let mut i := items.size
  for _ in [0:items.size] do
    if (items.getD (i - 1) 0) / SetPool.limit ≥ cls then i := i - 1 else break
  let here := items.getD i 0
  if i < items.size && here / SetPool.limit == cls then
    let (set, pool) := pool.union (here % SetPool.limit) (item % SetPool.limit)
    return (items.set! i (packItem cls set), pool)
  else
    return (items.insertIdx! i item, pool)

/-- The tokens after which the items of a closure go on, and the items there. -/
structure Closure where
  /-- The items after each symbol. -/
  buckets : Array (Array Nat)
  /-- The symbols with items. -/
  used : Array Nat
  deriving Inhabited

/-- Add one item after a symbol. -/
def Closure.push (c : Closure) (pool : SetPool) (symbol item : Nat) : Closure × SetPool :=
  let c := if (c.buckets.getD symbol #[]).isEmpty then { c with used := c.used.push symbol } else c
  let old := c.buckets.getD symbol #[]
  let buckets := c.buckets.set! symbol #[]
  let (items, pool) := insertItem pool item old
  ({ c with buckets := buckets.set! symbol items }, pool)

/-- Replace the items whose next step is inlined by what stands for them. -/
def openItems (plan : Plan) (kernel : Array Nat) : Array (Nat × Nat) :=
  kernel.foldl (fun acc k =>
    let cls := k / SetPool.limit
    let set := k % SetPool.limit
    let it := plan.table.items.getD cls default
    if it.inlined.isEmpty then acc.push (cls, set)
    else it.inlined.foldl (fun acc c => acc.push (c, set)) acc) #[]

/-- The closure of a state: the items after each symbol, and the finished items. -/
def closure (plan : Plan) (pool : SetPool) (opened : Array (Nat × Nat)) :
    Closure × Array (Nat × Nat) × SetPool := Id.run do
  let ruleCount := plan.names.size
  let symbolCount := plan.tokenCount + ruleCount + 1
  let mut pool := pool
  let mut c : Closure := ⟨Array.replicate symbolCount #[], #[]⟩
  let mut finished : Array (Nat × Nat) := #[]
  let mut pending : Array Nat := Array.replicate ruleCount 0
  let mut pendingUsed : Array Nat := #[]
  for (cls, set) in opened do
    let it := plan.table.items.getD cls default
    match it.next with
    | .finished => finished := finished.push (cls, set)
    | .token t =>
      let (c2, p2) := c.push pool t (packItem it.successor set)
      c := c2
      pool := p2
    | .rule r =>
      let (c2, p2) := c.push pool (plan.tokenCount + r) (packItem it.successor set)
      c := c2
      pool := p2
      let mut follow := set
      if it.afterNext != .finished then
        let (f, p3) := pool.intern (it.afterNext.firstIn plan.first)
        follow := f
        pool := p3
      let old := pending.getD r 0
      if old == 0 then pendingUsed := pendingUsed.push r
      let (u, p4) := pool.union old follow
      pool := p4
      pending := pending.set! r u
  let mut follows : Array Nat := Array.replicate ruleCount 0
  let mut ruleUsed : Array Nat := #[]
  for r in pendingUsed do
    let follow := pending.getD r 0
    for (v, own, inherits) in plan.arrivals.getD r #[] do
      let old := follows.getD v 0
      let mut u := own
      if inherits then
        let (u2, p5) := pool.union own follow
        u := u2
        pool := p5
      let (u3, p6) := pool.union old u
      pool := p6
      if old == 0 then ruleUsed := ruleUsed.push v
      follows := follows.set! v u3
  for v in ruleUsed do
    let set := follows.getD v 0
    for (symbol, classes) in plan.moves.getD v #[] do
      if symbol + 1 == symbolCount then
        for cls in classes do
          finished := finished.push (cls, set)
      else
        for cls in classes do
          let (c2, p2) := c.push pool symbol (packItem cls set)
          c := c2
          pool := p2
  return (c, finished, pool)

/-- The reductions on one token, strongest only, with what is known of them. -/
structure Ending where
  list : Array Nat := #[]
  prec : Option Prec := none
  rules : List Nat := []
  leftAssoc : Bool := false
  rightAssoc : Bool := false
  nonAssoc : Bool := false
  deriving Inhabited

/-- Add the reduction of a finished class: it is dropped if it binds less than those before, and
replaces them if it binds more. -/
def Ending.add (plan : Plan) (e : Ending) (cls : Nat) : Ending :=
  let it := plan.table.items.getD cls default
  let lhs := it.key.lhs
  let join (e : Ending) : Ending :=
    { list := e.list.push (plan.reductionOf.getD cls 0)
      prec := it.key.prec
      rules := if e.rules.contains lhs then e.rules else lhs :: e.rules
      leftAssoc := e.leftAssoc || it.key.assoc == some .left
      rightAssoc := e.rightAssoc || it.key.assoc == some .right
      nonAssoc := e.nonAssoc || it.key.assoc == none }
  if e.list.isEmpty then join e
  else
    match comparePrec plan.names plan.flat.precedences it.key.prec [lhs] e.prec e.rules with
    | .gt => join {}
    | .eq => join e
    | .lt => e

/-- The conflict of a state on a token. -/
def clashOn (plan : Plan) (pool : SetPool) (opened : Array (Nat × Nat)) (finished : Array (Nat × Nat))
    (token : Nat) (e : Ending) : Clash :=
  let going := opened.toList.filterMap fun (cls, _) =>
    let it := plan.table.items.getD cls default
    if it.key.dot > 0 && (it.next.firstIn plan.first).testBit token
    then some (it.key.prec, it.key.lhs) else none
  let ended := finished.toList.filterMap fun (cls, set) =>
    if (pool.sets.getD set 0).testBit token
    then some (plan.table.items.getD cls default).key.lhs else none
  let inside (r : Nat) : Bool := r < plan.names.size
  { going
    rules := (going.map (·.2) ++ ended).filter inside
    ending := e.prec
    endingRules := e.rules
    leftAssoc := e.leftAssoc
    rightAssoc := e.rightAssoc
    nonAssoc := e.nonAssoc }

/-- Build one state from its items. -/
def Builder.build (plan : Plan) (b : Builder) (kernel : Array Nat) : Builder := Id.run do
  let opened := openItems plan kernel
  let mut b := b
  let pool := b.pool
  b := { b with pool := {} }
  let (c, finished, pool) := closure plan pool opened
  b := { b with pool := pool }
  let symbols := c.used.qsort (· < ·)
  let mut shiftOf : Array Nat := Array.replicate plan.tokenCount 0
  let mut rules : Array Nat := #[]
  let mut targets : Array Nat := #[]
  let mut mask : Nat := 0
  for s in symbols do
    let (target, b2) := b.stateOf (c.buckets.getD s #[])
    b := b2
    if s < plan.tokenCount then
      shiftOf := shiftOf.set! s (target + 1)
      mask := mask ||| (1 <<< s)
    else
      rules := rules.push (s - plan.tokenCount)
      targets := targets.push target
  let finished := if finished.size > 1 then finished.qsort (fun x y => x.1 < y.1) else finished
  for (_, set) in finished do
    mask := mask ||| b.pool.sets.getD set 0
  let mut tokens : Array Nat := #[]
  let mut cells : Array Cell := #[]
  -- reductions that are the same on all their tokens share one cell
  let mut single : Cell := {}
  let mut singleEnding : Ending := {}
  if finished.size == 1 then
    let (cls, _) := finished.getD 0 default
    singleEnding := singleEnding.add plan cls
    let (i, b2) := b.listOf singleEnding.list
    b := b2
    single := { reductions := i }
  for t in [0:plan.tokenCount] do
    if mask.testBit t then
      let shift := shiftOf.getD t 0
      let target := if shift == 0 then none else some (shift - 1)
      let mut ending : Ending := {}
      let mut cell : Cell := {}
      if finished.size == 1 then
        if (b.pool.sets.getD (finished.getD 0 default).2 0).testBit t then
          ending := singleEnding
          cell := single
      else if finished.size > 1 then
        for (cls, set) in finished do
          if (b.pool.sets.getD set 0).testBit t then
            ending := ending.add plan cls
        if !ending.list.isEmpty then
          let (i, b2) := b.listOf ending.list
          b := b2
          cell := { reductions := i }
      if target.isSome then
        cell := { cell with shift := target }
      if ending.list.size > 1 || (target.isSome && !ending.list.isEmpty) then
        let clash := clashOn plan b.pool opened finished t ending
        cell := clash.settle plan cell
      tokens := tokens.push t
      cells := cells.push cell
  let (core, b2) := b.coreOf kernel
  b := b2
  return { b with states := b.states.push { core, tokens, cells, rules, targets } }

/-- All states of a grammar. -/
structure Blueprint where
  plan : Plan
  states : Array State
  lists : Array (Array Nat)
  deriving Inhabited

/-- Build the states from an index on. -/
def Builder.run (plan : Plan) : Nat → Builder → Builder
  | 0, b => b
  | fuel + 1, b =>
    match b.kernels[b.states.size]? with
    | none => b
    | some kernel => Builder.run plan fuel (b.build plan kernel)

/-- More states than this no automaton has. -/
def maxStates : Nat := 1000000

/-- All states of a grammar; `owned` are the aliases that its symbols own. -/
def Blueprint.ofFlat (g : Flat) (owned : List (Symbol × Alias)) : Blueprint :=
  let (plan, pool) := Plan.ofFlat g owned
  let (eof, pool) := pool.intern (1 <<< g.eofIndex)
  let start := #[packItem plan.table.start eof]
  let b : Builder :=
    { pool
      kernels := #[#[], start]
      index := ({} : Std.HashMap (Array Nat) Nat).insert start 1
      cores := ({} : Std.HashMap (Array Nat) Nat).insert #[] 0
      states := #[{ core := 0, tokens := #[], cells := #[], rules := #[], targets := #[] }]
      lists := #[#[]]
      listIndex := ({} : Std.HashMap (Array Nat) Nat).insert #[] 0 }
  let b := Builder.run plan maxStates b
  { plan, states := b.states, lists := b.lists }

end TestLocator.Automaton
