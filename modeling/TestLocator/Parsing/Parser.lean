import TestLocator.Parsing.Stack

/-!
# The parser

The parser follows the tables with a stack of readings. Where a token fits no reading it tries to
put in a missing token, or goes back to a state where the token fits, or skips the token, and weighs
what each of these costs.

* `Run` — the parser at work;
* `Standing`, `Standing.compare` — which of two readings is better;
* `Run.reduce`, `Run.take`, `Run.advance` — reductions, and the steps of one reading;
* `Scanned`, `Run.lookahead` — the next token, which readings share where it serves both;
* `Run.handleError`, `Run.recover` — what happens at an error;
* `Run.condense` — drop the readings that are clearly worse;
* `Run.toEnd`, **`Tables.parse`** — the tree of a text.
-/

namespace TestLocator.Parsing

/-- A token that was scanned, with the state that looked for it and the bytes before it. -/
structure Scanned where
  token : Tree
  state : Nat
  position : Nat
  deriving Inhabited

/-- The parser at work. -/
structure Run where
  stack : Stack
  /-- The best tree so far. -/
  finished : Option Tree := none
  /-- The number of trees found. -/
  accepted : Nat := 0
  /-- The last token scanned. -/
  scanned : Option Scanned := none
  deriving Inhabited

/-- What a parser works with. -/
structure Setting where
  tables : Tables
  external : External
  source : Source

/-- At most this many readings are kept. -/
def maxReadings : Nat := 6

/-- So many more readings may be there for a while. -/
def readingOverflow : Nat := 4

/-- A difference of costs from which the worse reading is dropped. -/
def maxCostDifference : Nat := 16 * skippedTreeCost

/-! ## Comparing readings -/

/-- How a reading does. -/
structure Standing where
  cost : Nat
  nodes : Nat
  dynamic : Int
  lost : Bool

/-- Which of two readings is better; `take` drops the other. -/
inductive Verdict where
  | takeLeft
  | preferLeft
  | same
  | preferRight
  | takeRight
  deriving DecidableEq

/-- How a reading does. -/
def standing (s : Stack) (v : Nat) : Standing :=
  let paused := s.isPaused v
  { cost := s.errorCost v + (if paused then skippedTreeCost else 0)
    nodes := s.nodesSinceError v
    dynamic := (s.top v).dynamic
    lost := paused || s.state v == Tables.lost }

/-- Which of two readings is better. -/
def Standing.compare (a b : Standing) : Verdict :=
  if !a.lost && b.lost then (if a.cost < b.cost then .takeLeft else .preferLeft)
  else if a.lost && !b.lost then (if b.cost < a.cost then .takeRight else .preferRight)
  else if a.cost < b.cost then
    if (b.cost - a.cost) * (1 + a.nodes) > maxCostDifference then .takeLeft else .preferLeft
  else if b.cost < a.cost then
    if (a.cost - b.cost) * (1 + b.nodes) > maxCostDifference then .takeRight else .preferRight
  else if a.dynamic > b.dynamic then .preferLeft
  else if b.dynamic > a.dynamic then .preferRight
  else .same

/-- Whether some other reading is better than a reading would be at a cost. -/
def Run.betterExists (r : Run) (v cost : Nat) : Bool × Run := Id.run do
  match r.finished with
  | some t => if t.errorCost ≤ cost then return (true, r)
  | none => pure ()
  let mut s := r.stack.settle v
  let own : Standing :=
    { cost, nodes := s.nodesSinceError v, dynamic := (s.top v).dynamic, lost := false }
  for i in [0:s.size] do
    if i != v && s.isActive i && (s.position v).bytes ≤ (s.position i).bytes then
      s := s.settle i
      let better := match own.compare (standing s i) with
        | .takeRight => true
        | .preferRight => s.canMerge i v
        | _ => false
      if better then return (true, { r with stack := s })
  return (false, { r with stack := s })

/-! ## Reductions -/

/-- Reduce the top of a reading to a node, once for every way to pop its children. Returns the first
new reading. -/
def Run.reduce (c : Setting) (r : Run) (v symbol count : Nat) (dynamic : Int) (shape : Nat) :
    Option Nat × Run := Id.run do
  let initial := r.stack.size
  let before := r.stack
  let rest := { r with stack := ⟨#[], #[]⟩ }
  let (popped, stack) := before.popCount v count
  let mut s := stack
  let mut removed := 0
  let mut i := 0
  for _ in [0:popped.size] do
    if i < popped.size then
      let p := popped.getD i default
      let w := p.reading - removed
      if w > maxReadings + readingOverflow then
        s := s.remove w
        removed := removed + 1
        for _ in [i + 1:popped.size] do
          if i + 1 < popped.size && (popped.getD (i + 1) default).reading == p.reading then
            i := i + 1
      else
        let (children, extras) := splitExtras p.trees
        let mut parent := Tree.ofChildren c.tables symbol children shape
        let mut trailing := extras
        for _ in [i + 1:popped.size] do
          if i + 1 < popped.size && (popped.getD (i + 1) default).reading == p.reading then
            i := i + 1
            let (others, extras2) := splitExtras (popped.getD i default).trees
            if parent.prefersOther (Tree.ofChildren c.tables symbol others 0) then
              parent := Tree.ofChildren c.tables symbol others shape
              trailing := extras2
        let next := c.tables.next (s.state w) symbol
        s := s.push c.tables w (some (parent.addDynamic dynamic)) next
        for t in trailing do
          s := s.push c.tables w (some t) next
        for j in [0:w] do
          if j != v && s.canMerge j w then
            s := s.join c.tables j w
            removed := removed + 1
            break
      i := i + 1
  let fresh := if s.size > initial then some initial else none
  return (fresh, { rest with stack := s })

/-- The end of the text: the trees of a reading are a finished tree. -/
def Run.accept (c : Setting) (r : Run) (v : Nat) (lookahead : Tree) : Run := Id.run do
  let (popped, stack) := (r.stack.push c.tables v (some lookahead) 1).popAll v
  let mut finished := r.finished
  let mut accepted := r.accepted
  for p in popped do
    -- the last tree that is no extra is the root; its children and the extras become one list
    let (before, after) := p.trees.reverse.span (·.extra)
    match after with
    | [] => pure ()
    | root :: rest =>
      let children := rest.reverse ++ root.children ++ before.reverse
      let tree := Tree.ofChildren c.tables root.symbol children root.info.shape
      accepted := accepted + 1
      finished := match finished with
        | some old => if old.prefersOther tree then some tree else some old
        | none => some tree
  let stack := match popped[0]? with
    | some p => stack.remove p.reading
    | none => stack
  return { r with stack := stack.halt v, finished, accepted }

/-! ## Errors -/

/-- Reduce a reading, and the readings that come from it, in every way that some token allows; or
only in the ways that lead to taking one token, when that is not `0`. Returns whether the token can
be taken. -/
def Run.reduceAll (c : Setting) (r : Run) (first token : Nat) : Bool × Run := Id.run do
  let initial := r.stack.size
  let mut r := r
  let mut canShift := false
  let mut v := first
  let mut round := 0
  for _ in [0:1000000] do
    let count := r.stack.size
    if v ≥ count then break
    let mut merged := false
    for j in [initial:v] do
      if r.stack.canMerge j v then
        r := { r with stack := r.stack.join c.tables j v }
        merged := true
        break
    if merged then
      round := round + 1
      continue
    let state := r.stack.state v
    let mut shifts := false
    let mut reductions : Array (Nat × Nat × Int × Nat) := #[]
    let (lo, hi) := if token == 0 then (1, c.tables.tokenCount) else (token, token + 1)
    for t in [lo:hi] do
      let a := c.tables.action state t
      if (a.shift.isSome && !a.repetition) || a.recover then shifts := true
      for red in a.reductions do
        if red.2.1 > 0 && !reductions.any fun o => o.1 == red.1 && o.2.1 == red.2.1 then
          reductions := reductions.push red
    let mut fresh : Option Nat := none
    for (symbol, n, dynamic, shape) in reductions do
      let (f, r2) := r.reduce c v symbol n dynamic shape
      fresh := f
      r := r2
    let mut again := false
    if shifts then canShift := true
    else
      match fresh with
      | some f =>
        if round < maxReadings then
          r := { r with stack := r.stack.renumber f v }
          again := true
        else if token != 0 then
          r := { r with stack := r.stack.remove v }
      | none =>
        if token != 0 then
          r := { r with stack := r.stack.remove v }
    round := round + 1
    if !again then
      if v == first then v := count else v := v + 1
  return (canShift, r)

/-- Go back to a remembered state: what was read since becomes an error. -/
def Run.recoverTo (c : Setting) (r : Run) (v depth goal : Nat) : Bool × Run := Id.run do
  let (popped, stack) := r.stack.popCount v depth
  let mut s := stack
  let mut previous : Option Nat := none
  for p in popped do
    if previous == some p.reading then
      continue
    if s.state p.reading != goal then
      s := s.halt p.reading
      continue
    let (errors, s2) := s.popError c.tables p.reading
    s := s2
    let trees := (errors.flatMap (·.children)) ++ p.trees
    let (inside, trailing) := splitExtras trees
    if !inside.isEmpty then
      s := s.push c.tables p.reading (some (Tree.errorNode c.tables inside true)) goal
    for t in trailing do
      s := s.push c.tables p.reading (some t) goal
    previous := some p.reading
  return (previous.isSome, { r with stack := s })

/-- Remove the readings from one on that have ended. -/
def removeHalted (s : Stack) (first : Nat) : Stack := Id.run do
  let mut s := s
  let mut i := first
  for _ in [first:s.size] do
    if i < s.size then
      if s.isActive i then i := i + 1 else s := s.remove i
  return s

/-- Let a lost reading go back to a remembered state where a token fits, unless the text that would
be given up costs more than another reading has come to. `nodes` and `cost` are those of the reading
since its error, and `count` is the number of readings that could come to the same place. -/
def Run.goBack (c : Setting) (r : Run) (v nodes cost count : Nat) (lookahead : Tree) :
    Bool × Run := Id.run do
  let mut r := r
  let mut recovered := false
  if lookahead.symbol != c.tables.error then
    for m in ((r.stack.reading v).memories).getD #[] do
      let position := r.stack.position v
      if m.state == Tables.lost || m.position.bytes == position.bytes then continue
      let depth := if nodes > 0 then m.depth + 1 else m.depth
      let wouldMerge := (List.range count).any fun j =>
        r.stack.state j == m.state && (r.stack.position j).bytes == position.bytes
      if wouldMerge then continue
      let newCost := cost + m.depth * skippedTreeCost
        + (position.bytes - m.position.bytes) * skippedByteCost
        + (position.rows - m.position.rows) * skippedLineCost
      let (better, r2) := r.betterExists v newCost
      r := r2
      if better then break
      if c.tables.hasAction m.state lookahead.symbol then
        let (ok, r2) := r.recoverTo c v depth m.state
        r := r2
        if ok then
          recovered := true
          break
  return (recovered, { r with stack := removeHalted r.stack count })

/-- Let a lost reading skip a token, unless another reading has come to less than that costs. The
tokens skipped one after the other become one piece. -/
def Run.skip (c : Setting) (r : Run) (v nodes cost : Nat) (lookahead : Tree) : Run := Id.run do
  let tables := c.tables
  let newCost := cost + skippedTreeCost + lookahead.total.bytes * skippedByteCost
    + lookahead.total.rows * skippedLineCost
  let (better, r2) := r.betterExists v newCost
  let mut r := r2
  if better then
    return { r with stack := r.stack.halt v }
  let lookahead :=
    if lookahead.symbol != tables.error && (tables.action 1 lookahead.symbol).extra
    then lookahead.withExtra true else lookahead
  let mut skipped := Tree.ofChildren tables tables.skipped [lookahead] 0
  if nodes > 0 then
    let (popped, stack) := r.stack.popCount v 1
    let mut s := stack
    match popped[0]? with
    | some p =>
      if popped.size > 1 then
        for _ in [0:s.size] do
          if s.size > p.reading + 1 then s := s.remove (p.reading + 1)
      s := s.renumber p.reading v
      skipped := Tree.ofChildren tables tables.skipped (p.trees ++ [skipped]) 0
    | none => pure ()
    r := { r with stack := s }
  return { r with stack := r.stack.push tables v (some skipped) Tables.lost }

/-- A lost reading meets a token: it goes back to a state where the token fits, and also skips it.
At the end of the text all that it has read is an error. -/
def Run.recover (c : Setting) (r : Run) (v : Nat) (lookahead : Tree) : Run :=
  let r := { r with stack := r.stack.settle v }
  let nodes := r.stack.nodesSinceError v
  let cost := r.stack.errorCost v
  let (recovered, r) := r.goBack c v nodes cost r.stack.size lookahead
  if recovered && r.stack.size > maxReadings then { r with stack := r.stack.halt v }
  else if lookahead.symbol == 0 then
    let all := Tree.errorNode c.tables [] false
    Run.accept c { r with stack := r.stack.push c.tables v (some all) 1 } v lookahead
  else r.skip c v nodes cost lookahead

/-- Try to put in a token that is missing before the lookahead. -/
def Run.insertMissing (c : Setting) (r : Run) (v : Nat) (lookahead : Tree) : Bool × Run := Id.run do
  let tables := c.tables
  let mut r := r
  let state := r.stack.state v
  for token in [1:tables.tokenCount] do
    let after := tables.next state token
    if after == 0 || after == state then continue
    if tables.reducesOn after lookahead.symbol then
      let (w, stack) := r.stack.copy v
      let stack := stack.push tables w (some (Tree.missingLeaf token)) after
      let (ok, r2) := Run.reduceAll c { r with stack } w lookahead.symbol
      r := r2
      if ok then
        return (true, r)
  return (false, r)

/-- A reading meets a token that it cannot take. -/
def Run.handleError (c : Setting) (r : Run) (v : Nat) (lookahead : Tree) : Run := Id.run do
  let previous := r.stack.size
  let (_, r1) := r.reduceAll c v 0
  let mut r := r1
  let count := r.stack.size
  let mut inserted := false
  let mut w := v
  for _ in [0:count] do
    if w < count then
      if !inserted then
        let (ok, r2) := r.insertMissing c w lookahead
        r := r2
        inserted := ok
      r := { r with stack := r.stack.push c.tables w none Tables.lost }
      w := if w == v then previous else w + 1
  for _ in [previous:count] do
    if r.stack.canMerge v previous then
      r := { r with stack := r.stack.join c.tables v previous }
  r := { r with stack := r.stack.summarize v }
  return r.recover c v lookahead

/-! ## Steps -/

/-- Whether a token that one state looked for is also what another state would find. -/
def Scanned.serves (tables : Tables) (t : Scanned) (state : Nat) : Bool :=
  let symbol := t.token.symbol
  tables.hasAction state symbol &&
    ((tables.sameMode t.state state
        && (symbol != Tables.word || (t.state == state && !t.token.info.keyword))) ||
      ((t.token.info.size.bytes > 0 || symbol == 0)
        && tables.externals.getD state 0 == 0 && tables.isDistinct state symbol))

/-- The next token of a reading: the one scanned last, where it serves, or a new one. -/
def Run.lookahead (c : Setting) (r : Run) (v : Nat) : Tree × Run :=
  let state := r.stack.state v
  let position := r.stack.position v
  let known := r.scanned.bind fun t =>
    if t.position == position.bytes && t.serves c.tables state then some t.token else none
  match known with
  | some t => (t, r)
  | none =>
    let t := c.tables.lex c.external c.source state (r.stack.hasAdvanced v) position.chars
    (t, { r with scanned := some ⟨t, state, position.bytes⟩ })

/-- Reduce a reading in each of some ways. Returns the reading that came last from that. -/
def Run.reduceEach (c : Setting) (v : Nat) (ways : Array (Nat × Nat × Int × Nat)) (r : Run) :
    Option Nat × Run :=
  ways.foldl (fun (last, r) (symbol, n, dynamic, shape) =>
    let (fresh, r) := Run.reduce c r v symbol n dynamic shape
    (fresh.or last, r)) (none, r)

/-- Take a token with a reading after all reductions that it asks for, in `fuel` rounds of
reductions. A keyword that does not fit is tried as a word. -/
def Run.take (c : Setting) (v : Nat) : Nat → Tree → Run → Run
  | 0, _, r => r
  | fuel + 1, lookahead, r =>
    let tables := c.tables
    let state := r.stack.state v
    let a := tables.action state lookahead.symbol
    let (last, r) := r.reduceEach c v a.reductions
    if a.extra then
      { r with stack := r.stack.push tables v (some (lookahead.withExtra true)) state }
    else
      match if a.repetition then none else a.shift with
      | some next =>
        { r with stack := r.stack.push tables v (some (lookahead.withExtra false)) next }
      | none =>
        if a.accept then r.accept c v lookahead
        else if a.recover then r.recover c v lookahead
        else
          match last with
          | some w => Run.take c v fuel lookahead { r with stack := r.stack.renumber w v }
          | none =>
            if lookahead.info.keyword && lookahead.symbol != Tables.word
                && tables.hasAction state Tables.word then
              Run.take c v fuel (lookahead.withSymbol Tables.word) r
            else if state == Tables.lost then r.recover c v lookahead
            else { r with stack := r.stack.pause v lookahead }

/-- More steps than this no text takes. -/
def maxSteps : Nat := 1000000000

/-- Take one token with a reading, with all reductions before it. -/
def Run.advance (c : Setting) (r : Run) (v : Nat) : Run :=
  let (lookahead, r) := r.lookahead c v
  r.take c v maxSteps lookahead

/-- Drop ended readings and those that are clearly worse than others, join what can be joined, and
put better ones first. Returns the least cost of a reading that is not lost. -/
def Stack.condense (tables : Tables) (stack : Stack) : Option Nat × Stack := Id.run do
  let mut s := stack
  let mut least : Option Nat := none
  let mut i := 0
  for _ in [0:1000000] do
    if i ≥ s.size then break
    if s.isHalted i then
      s := s.remove i
      continue
    s := s.settle i
    let own := standing s i
    if !own.lost then
      least := some (match least with
        | some m => min m own.cost
        | none => own.cost)
    -- compare with each earlier reading
    let mut j := 0
    let mut gone := false
    for _ in [0:s.size] do
      if gone || j ≥ i then break
      s := s.settle j
      match (standing s j).compare own with
      | .takeLeft =>
        s := s.remove i
        gone := true
      | .preferLeft | .same =>
        if s.canMerge j i then
          s := s.join tables j i
          gone := true
        else j := j + 1
      | .preferRight =>
        if s.canMerge j i then
          s := s.join tables j i
          gone := true
        else
          s := s.swap i j
          j := j + 1
      | .takeRight =>
        s := s.remove j
        i := i - 1
    if !gone then i := i + 1
  for _ in [0:s.size] do
    if s.size > maxReadings then s := s.remove maxReadings
  return (least, s)

/-- Handle the error of the first reading that waits, unless another goes on; the other readings
that wait are dropped. Returns what that reading costs. -/
def Run.resume (c : Setting) (r : Run) : Option Nat × Run := Id.run do
  let mut r := r
  let mut cost : Option Nat := none
  let mut unpaused := false
  let mut k := 0
  for _ in [0:r.stack.size] do
    if k < r.stack.size then
      match (r.stack.reading k).status with
      | .paused lookahead =>
        if !unpaused && r.accepted < maxReadings then
          cost := some (r.stack.errorCost k)
          let stack := r.stack.modify k fun x => { x with status := .active }
          r := Run.handleError c { r with stack } k lookahead
          unpaused := true
          k := k + 1
        else
          r := { r with stack := r.stack.remove k }
      | _ =>
        unpaused := true
        k := k + 1
  return (cost, r)

/-- Condense the stack and let a reading that waits go on. Returns the least cost of a reading. -/
def Run.condense (c : Setting) (r : Run) : Option Nat × Run :=
  let ⟨stack, finished, accepted, scanned⟩ := r
  let (least, stack) := stack.condense c.tables
  let (cost, r) := Run.resume c ⟨stack, finished, accepted, scanned⟩
  (cost.or least, r)

/-- Let each reading take tokens until it has come further than all readings before. `reached` is how
far they have come. -/
def Run.advanceAll (c : Setting) (reached : Nat) (run : Run) : Nat × Run := Id.run do
  let mut r := run
  let mut reached := reached
  let mut v := 0
  for _ in [0:maxSteps] do
    if v ≥ r.stack.size then break
    for _ in [0:maxSteps] do
      if !r.stack.isActive v then break
      r := r.advance c v
      let position := (r.stack.position v).bytes
      if position > reached || (v > 0 && position == reached) then
        reached := position
        break
    v := v + 1
  return (reached, r)

/-- Whether the best tree is better than what any reading can still come to, given the least cost of
a reading. -/
def Run.isDone (r : Run) (least : Option Nat) : Bool :=
  match r.finished, least with
  | some t, some m => t.errorCost < m
  | some _, none => true
  | none, _ => false

/-- Advance and condense, in `fuel` rounds, until a tree is found that is good enough or no reading
is left. -/
def Run.toEnd (c : Setting) : Nat → Nat → Run → Option Tree
  | 0, _, r => r.finished
  | fuel + 1, reached, r =>
    if r.stack.size == 0 then r.finished
    else
      let (reached, r) := r.advanceAll c reached
      let (least, r) := r.condense c
      if r.isDone least then r.finished else Run.toEnd c fuel reached r

/-- The tree of a text. -/
def Tables.parse (tables : Tables) (external : External) (source : Source) : Option Tree :=
  Run.toEnd ⟨tables, external, source⟩ maxSteps 0 { stack := .start }

end TestLocator.Parsing
