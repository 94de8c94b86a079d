import TestLocator.Automaton.Item

/-!
# Sets of tokens

Which tokens can start or end what a symbol stands for, and what the dot in front of a rule brings
along. Token sets are the bits of numbers; while an automaton is built each set has a short number
of its own.

* `Bits` — a token set with a hash of all its bits, `bitsOf` — its members;
* `edgeSets`, `firstOf`, `Next.firstIn` — the tokens at the edge of a rule;
* `SetPool` — numbered token sets and their unions;
* `Arrival`, `Flat.arrivals` — the rules that a dot in front of a rule also stands in front of.
-/

namespace TestLocator.Automaton

open TestLocator.Grammar

/-! ## Bits -/

/-- A set of numbers as the bits of a number. -/
structure Bits where
  mask : Nat
  deriving DecidableEq, Inhabited

/-- Mix the words of a number into a hash. -/
def hashWords : Nat → Nat → UInt64 → UInt64
  | 0, _, h => h
  | fuel + 1, n, h =>
    if n = 0 then h else hashWords fuel (n >>> 32) (mixHash h (UInt64.ofNat (n % 4294967296)))

instance : Hashable Bits := ⟨fun b => hashWords 64 b.mask 7⟩

/-- The members of a set of numbers below `bound`, ascending. -/
def bitsOf (bound mask : Nat) : Array Nat :=
  (Array.range bound).filter fun i => mask.testBit i

/-! ## First and last tokens -/

/-- One round of first sets: the set of each rule from the sets found so far. -/
def edgeRound (g : Flat) (pick : Production → Option Step) (known : Array Nat) : Array Nat :=
  g.rules.mapIdx fun i r =>
    r.productions.foldl (fun acc p =>
      match (pick p).map Step.symbol with
      | some (.rule j) => acc ||| known.getD j 0
      | some s => acc ||| (1 <<< g.tokenIndex s)
      | none => acc) (known.getD i 0)

/-- The tokens at one edge of every rule, in at most as many rounds as there are rules. -/
def edgeSets (g : Flat) (pick : Production → Option Step) : Array Nat :=
  let rec go : Nat → Array Nat → Array Nat
    | 0, known => known
    | fuel + 1, known =>
      let next := edgeRound g pick known
      if next == known then known else go fuel next
  go (g.rules.size + 1) (g.rules.map fun _ => 0)

/-- The tokens that can start a symbol, given those of the rules. -/
def firstOf (g : Flat) (sets : Array Nat) : Symbol → Nat
  | .rule r => sets.getD r 0
  | s => 1 <<< g.tokenIndex s

/-- The tokens that can start what follows a dot. -/
def Next.firstIn (sets : Array Nat) : Next → Nat
  | .finished => 0
  | .token t => 1 <<< t
  | .rule r => sets.getD r 0

/-! ## Numbered sets -/

/-- Token sets with short numbers; `0` is the empty set. -/
structure SetPool where
  sets : Array Nat := #[0]
  index : Std.HashMap Bits Nat := ({} : Std.HashMap Bits Nat).insert ⟨0⟩ 0
  unions : Std.HashMap Nat Nat := {}
  deriving Inhabited

/-- More sets than this no automaton has. -/
def SetPool.limit : Nat := 1048576

/-- The number of a set. -/
def SetPool.intern (p : SetPool) (mask : Nat) : Nat × SetPool :=
  match p.index[(⟨mask⟩ : Bits)]? with
  | some i => (i, p)
  | none =>
    let i := p.sets.size
    (i, { p with sets := p.sets.push mask, index := p.index.insert ⟨mask⟩ i })

/-- The number of the union of two numbered sets. -/
def SetPool.union (p : SetPool) (a b : Nat) : Nat × SetPool :=
  if a == b || b == 0 then (a, p)
  else if a == 0 then (b, p)
  else
    let key := if a < b then a * SetPool.limit + b else b * SetPool.limit + a
    match p.unions[key]? with
    | some i => (i, p)
    | none =>
      let (i, p) := p.intern (p.sets.getD a 0 ||| p.sets.getD b 0)
      (i, { p with unions := p.unions.insert key i })

/-! ## What a dot in front of a rule brings along -/

/-- A rule that the dot also stands in front of: the tokens that can follow it there, and whether
what follows the outer rule can follow it too. -/
structure Arrival where
  rule : Nat
  follow : Nat
  inherits : Bool
  deriving Inhabited

/-- The rules at the front of a rule's productions, each with the tokens that follow it, or with
none where nothing follows it. -/
def Flat.fronts (g : Flat) (first : Array Nat) (r : RuleDef) : List (Nat × Option Nat) :=
  (r.productions.foldl (fun acc p =>
    match p.steps[0]?.map Step.symbol with
    | some (.rule j) =>
      let front := (j, p.steps[1]?.map fun st => firstOf g first st.symbol)
      if acc.contains front then acc else front :: acc
    | _ => acc) []).reverse

/-- One step of the search for arrivals: join one arrival and go on where it is new. -/
def arrivalSearch (fronts : Array (List (Nat × Option Nat))) :
    Nat → List Arrival → Array (Option Arrival) → Array (Option Arrival)
  | 0, _, known => known
  | _, [], known => known
  | fuel + 1, a :: rest, known =>
    let old := (known.getD a.rule none).getD ⟨a.rule, 0, false⟩
    let follow := old.follow ||| a.follow
    let inherits := old.inherits || a.inherits
    if (known.getD a.rule none).isSome && follow == old.follow && inherits == old.inherits
    then arrivalSearch fronts fuel rest known
    else
      let known := known.set! a.rule (some ⟨a.rule, follow, inherits⟩)
      let next := (fronts.getD a.rule []).map fun (j, f) =>
        match f with
        | some set => ⟨j, set, false⟩
        | none => ⟨j, a.follow, a.inherits⟩
      arrivalSearch fronts fuel (next ++ rest) known

/-- More steps than this no search for arrivals takes. -/
def arrivalFuel : Nat := 100000000

/-- For each rule, the rules that a dot in front of it also stands in front of. -/
def Flat.arrivals (g : Flat) (first : Array Nat) : Array (Array Arrival) :=
  let fronts := g.rules.map (Flat.fronts g first)
  (Array.range g.rules.size).map fun r =>
    let found := arrivalSearch fronts arrivalFuel [⟨r, 0, true⟩] (g.rules.map fun _ => none)
    (found.filterMap id).filter fun a => !g.inlined.contains (.rule a.rule)

end TestLocator.Automaton
