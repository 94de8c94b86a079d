import TestLocator.Parsing.Scan

/-!
# The stack of readings

While a reading is open, the parser follows several at once. Their stacks share what they have in
common: every place of the stack is a node that links to those below it, and readings that come to
the same state at the same place of the text join again.

* `Place`, `Link`, `Reading`, `Stack` — nodes, links and the tops of the stacks;
* `Stack.push`, `Stack.popCount`, `Stack.popAll`, `Stack.popError` — pushing and popping;
* `Stack.canMerge`, `Stack.join` — join two readings;
* `Stack.summarize` — the states below the top.
-/

namespace TestLocator.Parsing

/-- A way down the stack: the place below and the tree between, which a discontinuity lacks. -/
structure Link where
  below : Nat
  tree : Option Tree
  deriving Inhabited

/-- A place of the stack. -/
structure Place where
  state : Nat
  position : Extent := {}
  links : Array Link := #[]
  errorCost : Nat := 0
  /-- The nodes below that show. -/
  nodeCount : Nat := 0
  dynamic : Int := 0
  deriving Inhabited

/-- A state that the parser was in before it was lost. -/
structure Memory where
  position : Extent
  depth : Nat
  state : Nat
  deriving Inhabited

/-- Whether a reading goes on. -/
inductive Status where
  | active
  /-- It has met a token that it cannot take. -/
  | paused (lookahead : Tree)
  | halted
  deriving Inhabited

/-- The top of one stack. -/
structure Reading where
  top : Nat
  status : Status := .active
  /-- The number of nodes when the last error was met. -/
  countAtError : Nat := 0
  memories : Option (Array Memory) := none
  deriving Inhabited

/-- The stacks of all readings. -/
structure Stack where
  places : Array Place
  readings : Array Reading
  deriving Inhabited

/-- At most this many links leave a place. -/
def maxLinks : Nat := 8

/-- At most this many ways down are followed at once. -/
def maxWays : Nat := 64

/-- The nodes of a tree that show, and a skipped piece. -/
def countNodes (tables : Tables) (t : Tree) : Nat :=
  t.info.descendants + (if tables.isVisible t.symbol then 1 else 0)
    + (if t.symbol == tables.skipped then 1 else 0)

namespace Stack

/-- The stack of one reading at the start. -/
def start : Stack := ⟨#[{ state := 1 }], #[{ top := 0 }]⟩

/-- The number of readings. -/
def size (s : Stack) : Nat := s.readings.size

/-- A reading. -/
def reading (s : Stack) (v : Nat) : Reading := s.readings.getD v default

/-- A place. -/
def place (s : Stack) (i : Nat) : Place := s.places.getD i default

/-- The place at the top of a reading. -/
def top (s : Stack) (v : Nat) : Place := s.place (s.reading v).top

/-- The state of a reading. -/
def state (s : Stack) (v : Nat) : Nat := (s.top v).state

/-- How much text a reading has taken. -/
def position (s : Stack) (v : Nat) : Extent := (s.top v).position

/-- Whether a reading goes on. -/
def isActive (s : Stack) (v : Nat) : Bool :=
  match (s.reading v).status with
  | .active => true
  | _ => false

/-- Whether a reading waits for the others. -/
def isPaused (s : Stack) (v : Nat) : Bool :=
  match (s.reading v).status with
  | .paused _ => true
  | _ => false

/-- Whether a reading has ended. -/
def isHalted (s : Stack) (v : Nat) : Bool :=
  match (s.reading v).status with
  | .halted => true
  | _ => false

/-- Change one reading. -/
def modify (s : Stack) (v : Nat) (f : Reading → Reading) : Stack :=
  { s with readings := s.readings.modify v f }

/-- Change one place. -/
def modifyPlace : Stack → Nat → (Place → Place) → Stack
  | ⟨places, readings⟩, i, f => ⟨places.modify i f, readings⟩

/-- Push a tree, or a discontinuity, and go to a state. -/
def push (s : Stack) (tables : Tables) (v : Nat) (tree : Option Tree) (state : Nat) : Stack :=
  let r := s.reading v
  let old := s.place r.top
  let base : Place := { old with state, links := #[⟨r.top, tree⟩] }
  let fresh := match tree with
    | some t =>
      { base with
        position := old.position + t.total
        errorCost := old.errorCost + t.errorCost
        nodeCount := old.nodeCount + countNodes tables t
        dynamic := old.dynamic + t.info.dynamic }
    | none => base
  let i := s.places.size
  { places := s.places.push fresh
    readings := s.readings.modify v fun r =>
      { r with
        top := i
        countAtError := if tree.isNone then fresh.nodeCount else r.countAtError } }

/-- Remove a reading; later ones move up. -/
def remove (s : Stack) (v : Nat) : Stack := { s with readings := s.readings.eraseIdxIfInBounds v }

/-- Put a reading in the place of an earlier one. -/
def renumber (s : Stack) (v w : Nat) : Stack :=
  if v == w then s
  else
    let r := s.reading v
    let old := s.reading w
    let r := if r.memories.isNone then { r with memories := old.memories } else r
    ({ s with readings := s.readings.set! w r }).remove v

/-- Exchange two readings. -/
def swap (s : Stack) (v w : Nat) : Stack :=
  { s with readings := (s.readings.set! v (s.reading w)).set! w (s.reading v) }

/-- Add a copy of a reading. -/
def copy (s : Stack) (v : Nat) : Nat × Stack :=
  (s.size, { s with readings := s.readings.push { s.reading v with memories := none } })

/-- End a reading. -/
def halt (s : Stack) (v : Nat) : Stack := s.modify v fun r => { r with status := .halted }

/-- Let a reading wait with a token. -/
def pause (s : Stack) (v : Nat) (lookahead : Tree) : Stack :=
  let count := (s.top v).nodeCount
  s.modify v fun r => { r with status := .paused lookahead, countAtError := count }

/-- What the errors of a reading cost. -/
def errorCost (s : Stack) (v : Nat) : Nat :=
  let p := s.top v
  let fresh := p.state == Tables.lost && (p.links.getD 0 ⟨0, none⟩).tree.isNone
  p.errorCost + (if s.isPaused v || fresh then recoveryCost else 0)

/-- Forget nodes before the last error that are no longer there. -/
def settle (s : Stack) (v : Nat) : Stack :=
  let count := (s.top v).nodeCount
  if count < (s.reading v).countAtError then s.modify v fun r => { r with countAtError := count }
  else s

/-- The nodes since the last error. -/
def nodesSinceError (s : Stack) (v : Nat) : Nat :=
  (s.top v).nodeCount - (s.reading v).countAtError

/-- Whether a place has text below it that was read without an error since the last one. -/
def hasTextBelow (s : Stack) (countAtError : Nat) : Nat → Place → Bool
  | 0, _ => false
  | fuel + 1, p =>
    let link := p.links.getD 0 ⟨0, none⟩
    match link.tree with
    | some t =>
      if t.total.bytes > 0 then true
      else if p.nodeCount > countAtError && t.errorCost == 0
      then hasTextBelow s countAtError fuel (s.place link.below)
      else false
    | none => false

/-- Whether a reading has taken text since the last error. -/
def hasAdvanced (s : Stack) (v : Nat) : Bool :=
  let p := s.top v
  p.errorCost == 0 || s.hasTextBelow (s.reading v).countAtError s.places.size p

/-! ## Joining -/

/-- Whether two trees are the same as far as the stack goes. -/
def sameTree (a b : Option Tree) : Bool :=
  match a, b with
  | none, none => true
  | some a, some b =>
    a.symbol == b.symbol &&
      ((a.errorCost > 0 && b.errorCost > 0) ||
        (a.info.padding.bytes == b.info.padding.bytes && a.info.size.bytes == b.info.size.bytes
          && a.children.length == b.children.length && a.extra == b.extra))
  | _, _ => false

/-- The weight of a tree. -/
def weight (t : Option Tree) : Int := (t.map (·.info.dynamic)).getD 0

/-- Add a link to a place. Links that carry the same tree are joined, and so are the places that
they lead to if those agree. -/
def addLink (tables : Tables) : Nat → Stack → Nat → Link → Stack
  | 0, s, _, _ => s
  | fuel + 1, s, i, link =>
    if link.below == i then s
    else
      let p := s.place i
      let target := s.place link.below
      let joins (l : Link) : Bool :=
        sameTree l.tree link.tree &&
          (l.below == link.below ||
            (let q := s.place l.below
             q.state == target.state && q.position.bytes == target.position.bytes
               && q.errorCost == target.errorCost))
      match p.links.findIdx? joins with
      | some k =>
        let l := p.links.getD k default
        if l.below == link.below then
          if weight link.tree > weight l.tree then
            s.modifyPlace i fun p =>
              { p with
                links := p.links.set! k link
                dynamic := target.dynamic + weight link.tree }
          else s
        else
          let s := target.links.foldl (fun s inner => addLink tables fuel s l.below inner) s
          let total := (s.place link.below).dynamic + weight link.tree
          s.modifyPlace i fun p => { p with dynamic := max p.dynamic total }
      | none =>
        if p.links.size == maxLinks then s
        else
          let count := target.nodeCount + (link.tree.map (countNodes tables)).getD 0
          let total := target.dynamic + weight link.tree
          s.modifyPlace i fun p =>
            { p with
              links := p.links.push link
              nodeCount := max p.nodeCount count
              dynamic := max p.dynamic total }

/-- Whether two readings have come to the same point. -/
def canMerge (s : Stack) (v w : Nat) : Bool :=
  let p := s.top v
  let q := s.top w
  s.isActive v && s.isActive w && p.state == q.state
    && p.position.bytes == q.position.bytes && p.errorCost == q.errorCost

/-- Join the second of two readings, that have come to the same point, to the first. -/
def join (s : Stack) (tables : Tables) (v w : Nat) : Stack :=
  let i := (s.reading v).top
  let links := (s.top w).links
  let s := links.foldl (fun s l => addLink tables (s.places.size + 1) s i l) s
  let s := if s.state v == Tables.lost
    then
      let count := (s.top v).nodeCount
      s.modify v fun r => { r with countAtError := count }
    else s
  s.remove w

/-! ## Popping -/

/-- A way down the stack so far: the place, the trees above it in the order of the text, and how
many of them are no extras. -/
structure Way where
  spot : Nat
  trees : List Tree := []
  count : Nat := 0
  deriving Inhabited

/-- A way that has ended, as a reading of its own. -/
structure Popped where
  reading : Nat
  trees : List Tree
  deriving Inhabited

/-- What to do at a place on the way down. -/
structure Step where
  pop : Bool := false
  stop : Bool := false

/-- Note a way that has ended: it shares the reading of an earlier one that ended at its place. -/
def addPopped (s : Stack) (v : Nat) (found : Array Popped) (w : Way) : Stack × Array Popped :=
  let shares (p : Popped) : Bool := (s.reading p.reading).top == w.spot
  match (Array.range found.size).toList.reverse.find? fun i => shares (found.getD i default) with
  | some i => (s, found.insertIdx! (i + 1) ⟨(found.getD i default).reading, w.trees⟩)
  | none =>
    let r := s.reading v
    let fresh : Reading := { top := w.spot, countAtError := r.countAtError }
    ({ s with readings := s.readings.push fresh }, found.push ⟨s.size, w.trees⟩)

/-- Go one link down. -/
def Way.follow (w : Way) (l : Link) : Way :=
  match l.tree with
  | some t =>
    { spot := l.below, trees := t :: w.trees, count := if t.extra then w.count else w.count + 1 }
  | none => { w with spot := l.below, count := w.count + 1 }

/-- The ways down that are followed, with those that have ended and what the visitor remembers. -/
structure Descent (σ : Type) where
  stack : Stack
  ways : Array Way
  found : Array Popped := #[]
  memory : σ

/-- One round: every way goes one link down, and ways split where links do. -/
def Descent.round {σ : Type} (v : Nat) (visit : Way → Stack → σ → Step × σ) (d : Descent σ) :
    Descent σ := Id.run do
  let mut d := d
  let mut i := 0
  let mut size := d.ways.size
  for _ in [0:d.ways.size] do
    if i < size then
      let w := d.ways.getD i default
      let p := d.stack.place w.spot
      let (step, memory) := visit w d.stack d.memory
      d := { d with memory := memory }
      if step.pop then
        let (stack, found) := addPopped d.stack v d.found w
        d := { d with stack := stack, found := found }
      if step.stop || p.links.isEmpty then
        d := { d with ways := d.ways.eraseIdxIfInBounds i }
        size := size - 1
      else
        let mut ways := d.ways
        for j in [1:p.links.size] do
          if ways.size < maxWays then
            ways := ways.push (w.follow (p.links.getD j default))
        d := { d with ways := ways.set! i (w.follow (p.links.getD 0 default)) }
        i := i + 1
  return d

/-- Go down until all ways have ended. -/
def Descent.run {σ : Type} (v : Nat) (visit : Way → Stack → σ → Step × σ) :
    Nat → Descent σ → Descent σ
  | 0, d => d
  | fuel + 1, d => if d.ways.isEmpty then d else Descent.run v visit fuel (d.round v visit)

/-- Go down from the top of a reading. -/
def descend {σ : Type} (s : Stack) (v : Nat) (memory : σ) (visit : Way → Stack → σ → Step × σ) :
    Descent σ :=
  Descent.run v visit (s.places.size + 2)
    { stack := s, ways := #[{ spot := (s.reading v).top }], memory }

/-- Pop some trees, extras not counted. Every place come to is a new reading. -/
def popCount (s : Stack) (v count : Nat) : Array Popped × Stack :=
  let d := s.descend v () fun w _ _ =>
    (if w.count == count then { pop := true, stop := true } else {}, ())
  (d.found, d.stack)

/-- Pop all trees. -/
def popAll (s : Stack) (v : Nat) : Array Popped × Stack :=
  let d := s.descend v () fun w s _ => ({ pop := (s.place w.spot).links.isEmpty }, ())
  (d.found, d.stack)

/-- Pop an error from the top of a reading, if there is one. -/
def popError (s : Stack) (tables : Tables) (v : Nat) : List Tree × Stack :=
  let isError (t : Option Tree) : Bool := (t.map (·.symbol)) == some tables.error
  if (s.top v).links.any fun l => isError l.tree then
    let d := s.descend v false fun w _ seen =>
      match w.trees with
      | [] => ({}, seen)
      | t :: _ =>
        if !seen && t.symbol == tables.error then ({ pop := true, stop := true }, true)
        else ({ stop := true }, seen)
    match d.found[0]? with
    | some p => (p.trees, d.stack.renumber p.reading v)
    | none => ([], s)
  else ([], s)

/-- The parser remembers the states of this many trees below the top. -/
def memoryDepth : Nat := 16

/-- Remember the states below the top of a reading. -/
def summarize (s : Stack) (v : Nat) : Stack :=
  let d := s.descend v (#[] : Array Memory) fun w s known =>
    let p := s.place w.spot
    let recent := known.toList.reverse.takeWhile fun m => w.count ≤ m.depth
    if w.count > memoryDepth then ({ stop := true }, known)
    else if recent.any fun m => m.depth == w.count && m.state == p.state then ({}, known)
    else ({}, known.push ⟨p.position, w.count, p.state⟩)
  s.modify v fun r => { r with memories := some d.memory }

end Stack

end TestLocator.Parsing
