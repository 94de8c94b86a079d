import TestLocator.Automaton.Context

/-!
# Merging states

States with the same items that differ only in what may follow are merged where this changes no
reading of a correct text: their cells must agree, and a state may look for the tokens of another
only where the scanner still tells them apart.

* `splitGroups` — split groups of states, each by a relation between states;
* `Groups`, `Blueprint.merged` — the merged states;
* `State.shortcut` — states that only rename a token are skipped.
-/

namespace TestLocator.Automaton

open TestLocator.Grammar

/-- A partition of states into groups, both ways. -/
structure Groups where
  members : Array (Array Nat)
  groupOf : Array Nat
  deriving Inhabited

/-- Take out of a list all that are at odds with one that stays before them. Returns those taken
out, by the one that each is at odds with. -/
def sift {α : Type} (odds : α → α → Bool) : Nat → List α → List (List α)
  | 0, _ => []
  | _, [] => []
  | fuel + 1, x :: rest =>
    let (out, stay) := rest.partition (odds x)
    let later := sift odds fuel stay
    if out.isEmpty then later else out :: later

/-- Group equal keys: for each key the positions that have it, in the order of first appearance. -/
def classesBy {κ : Type} [BEq κ] [Hashable κ] (keys : Array κ) : Array (Array Nat) :=
  (keys.foldl (fun (acc : Array (Array Nat) × Std.HashMap κ Nat × Nat) k =>
    let (groups, index, i) := acc
    match index[k]? with
    | some g => (groups.modify g (·.push i), index, i + 1)
    | none => (groups.push #[i], index.insert k groups.size, i + 1)) (#[], ∅, 0)).1

/-- Split one group: states with equal keys stay together, and of the rest those go that are at odds
with one that stays. -/
def Groups.split {κ : Type} [BEq κ] [Hashable κ] (key : Groups → Nat → κ)
    (odds : Groups → Nat → Nat → Bool) (g : Groups) (i : Nat) : Groups × Bool :=
  let states := g.members.getD i #[]
  if states.size < 2 then (g, false)
  else
    let classes := classesBy (states.map (key g))
    if classes.size < 2 then (g, false)
    else
      let first (c : Nat) : Nat := states.getD ((classes.getD c #[]).getD 0 0) 0
      let rounds := sift (fun a b => odds g (first a) (first b)) (classes.size + 1)
        (List.range classes.size)
      if rounds.isEmpty then (g, false)
      else
        let leaving := rounds.foldl (fun (acc : Array Nat) round =>
          let positions := round.foldl (fun (ps : Array Nat) c => ps ++ classes.getD c #[]) #[]
          acc ++ (positions.qsort (· < ·)).map fun k => states.getD k 0) #[]
        let fresh := g.members.size
        let groupOf := leaving.foldl (fun (acc : Array Nat) s => acc.set! s fresh) g.groupOf
        let staying := states.filter fun s => groupOf.getD s 0 == i
        ({ members := (g.members.set! i staying).push leaving, groupOf }, true)

/-- Split all groups from one on, the new ones too. -/
def splitGroups {κ : Type} [BEq κ] [Hashable κ] (key : Groups → Nat → κ)
    (odds : Groups → Nat → Nat → Bool) : Nat → Nat → Groups → Bool → Groups × Bool
  | 0, _, g, changed => (g, changed)
  | fuel + 1, i, g, changed =>
    if i < g.members.size then
      let (g, c) := g.split key odds i
      splitGroups key odds fuel (i + 1) g (changed || c)
    else (g, changed)

/-- Split all groups until nothing changes. -/
def splitAll {κ : Type} [BEq κ] [Hashable κ] (key : Groups → Nat → κ)
    (odds : Groups → Nat → Nat → Bool) : Nat → Groups → Groups
  | 0, g => g
  | fuel + 1, g =>
    let (g, changed) := splitGroups key odds maxStates 0 g false
    if changed then splitAll key odds fuel g else g

/-- Whether two cells do the same, up to the groups of the states they go to. -/
def Cell.agrees (groupOf : Array Nat) (a b : Cell) : Bool :=
  a.reductions == b.reductions && a.repetition == b.repetition &&
    match a.shift, b.shift with
    | some s, some t => groupOf.getD s 0 == groupOf.getD t 0
    | none, none => true
    | _, _ => false

/-- Whether `p` holds for all pairs of values at the same key of two ascending lists of keys. -/
def agreeOn {α β : Type} [Inhabited α] [Inhabited β] (p : α → β → Bool) (ks : Array Nat)
    (xs : Array α) (ls : Array Nat) (ys : Array β) : Nat → Nat → Nat → Bool
  | 0, _, _ => true
  | fuel + 1, i, j =>
    if i < ks.size && j < ls.size then
      let k := ks.getD i 0
      let l := ls.getD j 0
      if k < l then agreeOn p ks xs ls ys fuel (i + 1) j
      else if l < k then agreeOn p ks xs ls ys fuel i (j + 1)
      else p (xs.getD i default) (ys.getD j default) && agreeOn p ks xs ls ys fuel (i + 1) (j + 1)
    else true

/-- Whether a set has a token that is barred beside another set. -/
def barred (bars : Array (Option Nat)) (fresh beside : Nat) (tokenCount : Nat) : Bool :=
  fresh != 0 && (List.range tokenCount).any fun t => fresh.testBit t &&
    match bars.getD t none with
    | none => true
    | some set => set &&& beside != 0

/-- Whether the tokens of two states do not go together. -/
def statesClash (states : Array State) (masks : Array Nat) (bars : Array (Option Nat))
    (tokenCount : Nat) (g : Groups) (a b : Nat) : Bool :=
  let s := states.getD a default
  let t := states.getD b default
  let ms := masks.getD a 0
  let mt := masks.getD b 0
  let both := ms &&& mt
  !agreeOn (Cell.agrees g.groupOf) s.tokens s.cells t.tokens t.cells
      (s.tokens.size + t.tokens.size) 0 0
    || barred bars (ms ^^^ both) mt tokenCount
    || barred bars (mt ^^^ both) ms tokenCount

/-- Whether two states go to different groups by some symbol. -/
def successorsDiffer (states : Array State) (g : Groups) (a b : Nat) : Bool :=
  let s := states.getD a default
  let t := states.getD b default
  let sameGroup (x y : Nat) : Bool := g.groupOf.getD x 0 == g.groupOf.getD y 0
  let sameShift (x y : Cell) : Bool :=
    match x.shift, y.shift with
    | some u, some v => sameGroup u v
    | _, _ => true
  !agreeOn sameShift s.tokens s.cells t.tokens t.cells (s.tokens.size + t.tokens.size) 0 0
    || !agreeOn sameGroup s.rules s.targets t.rules t.targets (s.rules.size + t.rules.size) 0 0

/-- What a state does, up to the groups of the states it goes to. -/
def cellKey (states : Array State) (g : Groups) (a : Nat) : Array Nat :=
  let s := states.getD a default
  (s.tokens.zip s.cells).foldl (fun acc (t, c) =>
    (acc.push (t * 2 + (if c.repetition then 1 else 0))).push
      (c.reductions * SetPool.limit +
        match c.shift with
        | some x => g.groupOf.getD x 0 + 1
        | none => 0)) #[]

/-- Where a state goes to, up to groups. -/
def successorKey (states : Array State) (g : Groups) (a : Nat) : Array Nat :=
  let s := states.getD a default
  let shifts := (s.tokens.zip s.cells).foldl (fun acc (t, c) =>
    match c.shift with
    | some x => (acc.push t).push (g.groupOf.getD x 0)
    | none => acc) #[]
  (s.rules.zip s.targets).foldl (fun acc (r, x) =>
    (acc.push (SetPool.limit + r)).push (g.groupOf.getD x 0)) shifts

/-- Join ascending keys with their values; for a key of both the later value counts. -/
def joinKeys {α : Type} [Inhabited α] (ks : Array Nat) (xs : Array α) (ls : Array Nat)
    (ys : Array α) : Nat → Nat → Nat → Array Nat → Array α → Array Nat × Array α
  | 0, _, _, keys, vals => (keys, vals)
  | fuel + 1, i, j, keys, vals =>
    if i < ks.size || j < ls.size then
      let k := ks.getD i SetPool.limit
      let l := ls.getD j SetPool.limit
      if k < l then joinKeys ks xs ls ys fuel (i + 1) j (keys.push k) (vals.push (xs.getD i default))
      else if l < k then
        joinKeys ks xs ls ys fuel i (j + 1) (keys.push l) (vals.push (ys.getD j default))
      else joinKeys ks xs ls ys fuel (i + 1) (j + 1) (keys.push k) (vals.push (ys.getD j default))
    else (keys, vals)

/-- A state that does what two do. -/
def State.join (s t : State) : State :=
  let (tokens, cells) := joinKeys s.tokens s.cells t.tokens t.cells
    (s.tokens.size + t.tokens.size) 0 0 #[] #[]
  let (rules, targets) := joinKeys s.rules s.targets t.rules t.targets
    (s.rules.size + t.rules.size) 0 0 #[] #[]
  { s with tokens, cells, rules, targets }

/-- Rename the states that a state goes to. -/
def State.retarget (f : Nat → Nat) (s : State) : State :=
  { s with
    cells := s.cells.map fun c => { c with shift := c.shift.map f }
    targets := s.targets.map f }

/-- Merge the states of each group. -/
def Groups.merge (g : Groups) (states : Array State) : Array State :=
  g.members.map fun group =>
    let joined := (group.extract 1 group.size).foldl
      (fun (s : State) i => s.join (states.getD i default)) (states.getD (group.getD 0 0) default)
    joined.retarget fun i => g.groupOf.getD i 0

/-- Put the groups of the first two states first. -/
def Groups.ordered (g : Groups) : Groups :=
  let swap (g : Groups) (i j : Nat) : Groups :=
    let a := g.members.getD i #[]
    let b := g.members.getD j #[]
    let groupOf := b.foldl (fun (acc : Array Nat) s => acc.set! s i) g.groupOf
    let groupOf := a.foldl (fun (acc : Array Nat) s => acc.set! s j) groupOf
    { members := (g.members.set! i b).set! j a, groupOf }
  let g := swap g 0 (g.groupOf.getD 0 0)
  swap g 1 (g.groupOf.getD 1 0)

/-- The groups of states that can be merged. -/
def Blueprint.groups (b : Blueprint) (c : Context) : Groups :=
  let extras := b.plan.flat.extraMask
  let masks := b.states.map (State.mask · extras)
  let bars := c.bars
  let byCore := classesBy (b.states.map (·.core))
  let groupOf := (byCore.zip (Array.range byCore.size)).foldl
    (fun (acc : Array Nat) (states, i) => states.foldl (fun acc s => acc.set! s i) acc)
    (Array.replicate b.states.size 0)
  let start : Groups := ⟨byCore, groupOf⟩
  let (g, _) := splitGroups (cellKey b.states)
    (statesClash b.states masks bars b.plan.tokenCount) maxStates 0 start false
  (splitAll (successorKey b.states) (successorsDiffer b.states) maxStates g).ordered

/-! ## Shortcuts -/

/-- The rule that a state reduces to from one token in every case, if it shows no node and nothing
else hangs on it. -/
def State.renames (b : Blueprint) (aliased : List Symbol) (s : State) : Option Nat := do
  let first ← s.cells[0]?
  let only := b.lists.getD first.reductions #[]
  let red ← b.plan.reductions[only.getD 0 0]?
  let rule := Symbol.rule red.rule
  if red.count == 1 && red.shape == 0 && red.rule < b.plan.names.size
    && !aliased.contains rule && !b.plan.flat.supertypes.contains rule
    && (b.plan.flat.rules.getD red.rule default).kind != .named
    && s.cells.all fun c => c.shift.isNone && (b.lists.getD c.reductions #[]).all fun r =>
        let other := b.plan.reductions.getD r default
        other.rule == red.rule && other.count == 1 && other.shape == 0
  then some red.rule else none

/-- Where a state goes by a rule. -/
def State.goto (s : State) (rule : Nat) : Option Nat :=
  match s.rules.findIdx? (· == rule) with
  | some i => s.targets[i]?
  | none => none

/-- Skip states that only rename what was read: go where the renamed would lead. -/
def State.shortcut (renames : Array (Option Nat)) (s : State) : State :=
  let rec follow : Nat → Nat → Nat
    | 0, i => i
    | fuel + 1, i =>
      match renames.getD i none with
      | some r =>
        match s.goto r with
        | some j => if j == i then i else follow fuel j
        | none => i
      | none => i
  s.retarget (follow renames.size)

/-- The states that can be reached from the first two, in `fuel` rounds. -/
def reachableStates (states : Array State) : Nat → List Nat → Array Bool → Array Bool
  | 0, _, seen => seen
  | _, [], seen => seen
  | fuel + 1, i :: rest, seen =>
    if seen.getD i true then reachableStates states fuel rest seen
    else
      let s := states.getD i default
      let next := s.cells.toList.filterMap (·.shift) ++ s.targets.toList
      reachableStates states fuel (next ++ rest) (seen.set! i true)

/-- More steps than this no search for states takes. -/
def reachFuel : Nat := 100000000

/-- The number of symbols that a state knows. -/
def State.size (s : State) : Nat := s.tokens.size + s.rules.size

/-- Order all states but the first two by the number of symbols that they know, most first. -/
def bySize (states : Array State) : Array State :=
  let order := (List.range states.size).mergeSort fun i j =>
    i ≤ 1 || (j > 1 && (states.getD j default).size ≤ (states.getD i default).size)
  let place := (order.zip (List.range order.length)).foldl
    (fun (acc : Array Nat) (i, k) => acc.set! i k) (Array.replicate states.size 0)
  order.toArray.map fun i => (states.getD i default).retarget fun j => place.getD j 0

/-- The merged states of an automaton. -/
def Blueprint.merged (b : Blueprint) (c : Context) (owned : List (Symbol × Alias)) : Array State :=
  let states := (b.groups c).merge b.states
  let aliased := (b.plan.flat.rules.foldl (fun acc r =>
    r.productions.foldl (fun acc p =>
      p.steps.foldl (fun acc st =>
        if st.shown.isSome && !acc.contains st.symbol then st.symbol :: acc else acc) acc) acc)
    []) ++ owned.map (·.1)
  let renames := states.map (State.renames b aliased)
  let states := states.map (State.shortcut renames)
  let seen := reachableStates states reachFuel [0, 1] (Array.replicate states.size false)
  let (newIndex, _) := seen.foldl
    (fun (acc : Array Nat × Nat) s => (acc.1.push acc.2, if s then acc.2 + 1 else acc.2)) (#[], 0)
  let kept := (states.zip seen).filterMap fun (s, k) => if k then some s else none
  bySize (kept.map (State.retarget fun i => newIndex.getD i 0))

end TestLocator.Automaton
