import TestLocator.Automaton.Mode

/-!
# Parse tables

What a parser needs of a grammar: for each state and symbol what to do, for each state what the
scanner looks for, and how each symbol shows in a tree.

* `Action`, `Tables`, `Tables.ofGrammar`;
* `Tables.action`, `Tables.goto`, `Tables.next` — what a state does on a symbol.

Symbols are numbered: the end of the text is `0`, the word token is `1`, then come the other lexical
tokens, the external tokens and the rules, and last a skipped piece and an error.
-/

namespace TestLocator.Parsing

open TestLocator.Grammar TestLocator.Lexing TestLocator.Automaton

/-- What a state does on a token. Several reductions, or a reduction and going on, leave the reading
open. -/
structure Action where
  /-- Reductions: symbol of the rule, number of children, weight and shape. -/
  reductions : Array (Nat × Nat × Int × Nat) := #[]
  /-- The state to go on to. -/
  shift : Option Nat := none
  /-- Going on would only group a repetition in another way. -/
  repetition : Bool := false
  /-- The token may stand here without changing the state. -/
  extra : Bool := false
  accept : Bool := false
  /-- The parser is lost and looks for a place to go on. -/
  recover : Bool := false
  deriving Inhabited

/-- How a node's children show: aliases by place, and fields by place. -/
structure NodeShape where
  aliases : Array (Option Alias)
  /-- The fields under which the node holds each child. -/
  fields : List (String × Nat)
  /-- The fields that each child hands up: the node holds what the child holds under them. -/
  handedUp : List (String × Nat)
  deriving Inhabited

/-- The tables of a grammar. -/
structure Tables where
  tokenCount : Nat
  symbolCount : Nat
  names : Array String
  visible : Array Bool
  named : Array Bool
  lexicon : Lexicon
  /-- The symbol of each lexical token. -/
  lexical : Array Nat
  /-- The symbol of each external token. -/
  external : Array Nat
  /-- The keywords with their symbols. -/
  keywords : Std.HashMap String Nat
  /-- The length of the longest keyword. -/
  keywordLength : Nat
  actions : Array Action
  /-- For state `s` and token `t`, entry `s * tokenCount + t` is the index of an action. -/
  cellIndex : Array Nat
  /-- For state `s` and rule `r`, entry `s * ruleCount + r` is one more than a state. -/
  gotoIndex : Array Nat
  ruleCount : Nat
  shapes : Array NodeShape
  /-- For each mode its lexical tokens, and whether the text may end. -/
  modes : Array (Array Nat × Bool)
  modeOf : Array Nat
  /-- For each state the external tokens it looks for, as bits. -/
  externals : Array Nat
  /-- For each state the lexical tokens it looks for, as bits. -/
  sought : Array Nat
  /-- For each symbol the lexical tokens that overlap it, as bits. -/
  rivals : Array Nat
  deriving Inhabited

namespace Tables

/-- The symbol of a skipped piece inside an error. -/
def skipped (t : Tables) : Nat := t.symbolCount

/-- The symbol of an error. -/
def error (t : Tables) : Nat := t.symbolCount + 1

/-- The word token. -/
def word : Nat := 1

/-- The state of a lost parser. -/
def lost : Nat := 0

/-- What a state does on a token. -/
def action (t : Tables) (state token : Nat) : Action :=
  if token < t.tokenCount then
    t.actions.getD (t.cellIndex.getD (state * t.tokenCount + token) 0) {}
  else {}

/-- Whether a state does anything on a token. -/
def hasAction (t : Tables) (state token : Nat) : Bool :=
  token < t.tokenCount && t.cellIndex.getD (state * t.tokenCount + token) 0 != 0

/-- The state after a rule. -/
def goto (t : Tables) (state symbol : Nat) : Nat :=
  t.gotoIndex.getD (state * t.ruleCount + (symbol - t.tokenCount)) 0 - 1

/-- The state after a symbol, or `0`. -/
def next (t : Tables) (state symbol : Nat) : Nat :=
  if symbol < t.tokenCount then
    let a := t.action state symbol
    if a.extra then state else a.shift.getD 0
  else if symbol < t.symbolCount then t.goto state symbol
  else 0

/-- Whether the first thing a state does on a token is to reduce. -/
def reducesOn (t : Tables) (state token : Nat) : Bool := !(t.action state token).reductions.isEmpty

/-- Whether two states look for the same tokens. -/
def sameMode (t : Tables) (s s' : Nat) : Bool :=
  t.modeOf.getD s 0 == t.modeOf.getD s' 0 && t.externals.getD s 0 == t.externals.getD s' 0

/-- Whether no token that a state looks for overlaps a token. -/
def isDistinct (t : Tables) (state symbol : Nat) : Bool :=
  state != lost && t.sought.getD state 0 &&& t.rivals.getD symbol 0 == 0

/-- Whether a symbol makes a node of its own. -/
def isVisible (t : Tables) (symbol : Nat) : Bool :=
  symbol == t.error || t.visible.getD symbol false

/-- Whether a symbol makes a named node. -/
def isNamed (t : Tables) (symbol : Nat) : Bool := symbol == t.error || t.named.getD symbol false

/-- The kind of a symbol's node. -/
def nameOf (t : Tables) (symbol : Nat) : String :=
  if symbol == t.error then "ERROR" else t.names.getD symbol ""

end Tables

/-- How the tokens of a grammar are numbered: the old numbers in the new order. -/
def tokenOrder (g : Flat) : Array Nat :=
  let lexical := (Array.range g.tokens.size).filter (· != g.word)
  let externals := (Array.range g.externals.size).filter fun i =>
    (g.externals.getD i default).twin.isNone
  #[g.eofIndex, g.lexicalIndex g.word] ++ lexical.map g.lexicalIndex ++ externals

/-- How a symbol shows: name and visibility, those of the alias that it owns if there is one. -/
def shownAs (owned : List (Symbol × Alias)) (s : Symbol) (name : String) (kind : Visibility) :
    String × Bool × Bool :=
  match owned.lookup s with
  | some a => (a.name, true, a.named)
  | none => (name, kind.isVisible, kind == .named)

/-- The old token behind a number: its symbol, name and visibility. -/
def tokenOf (g : Flat) (old : Nat) : Symbol × String × Visibility :=
  if old < g.eofIndex then
    let e := g.externals.getD old default
    (.external old, e.name, e.kind)
  else if old == g.eofIndex then (.eof, "end", .hidden)
  else
    let i := old - g.lexicalIndex 0
    let t := g.tokens.getD i default
    (.terminal i, t.name, t.kind)

/-- The tables of merged states. -/
def Tables.ofStates (b : Blueprint) (c : Context) (owned : List (Symbol × Alias))
    (states : Array State) : Tables := Id.run do
  let g := b.plan.flat
  let order := tokenOrder g
  let tokenCount := order.size
  let ruleCount := g.rules.size
  let mut newToken : Array Nat := Array.replicate (g.tokenCount + 1) 0
  for i in [0:order.size] do
    newToken := newToken.set! (order.getD i 0) i
  for i in [0:g.externals.size] do
    match (g.externals.getD i default).twin with
    | some t => newToken := newToken.set! i (newToken.getD (g.lexicalIndex t) 0)
    | none => pure ()
  let shownTokens := order.map fun old =>
    let (s, name, kind) := tokenOf g old
    shownAs owned s name kind
  let shownRules := g.rules.mapIdx fun i r => shownAs owned (.rule i) r.name r.kind
  let shown := shownTokens ++ shownRules
  -- actions
  let reductions := b.lists.map fun l => l.map fun r =>
    let red := b.plan.reductions.getD r default
    (tokenCount + red.rule, red.count, red.dynamic, red.shape)
  let accepting (list : Nat) : Bool := (b.lists.getD list #[]).any fun r =>
    (b.plan.reductions.getD r default).rule == ruleCount
  let base := g.lexicalIndex 0
  let extras := g.extraMask
  let recovery := (c.recoveryTokens <<< base) ||| (1 <<< g.eofIndex) |||
    ((List.range g.externals.size).foldl (fun m i =>
      if (g.externals.getD i default).twin.isNone then m ||| (1 <<< i) else m) 0)
  let mut actions : Array Action := #[{}, { recover := true }, { extra := true }]
  let mut known : Std.HashMap (Nat × Nat × Bool) Nat := ∅
  let mut cellIndex : Array Nat := Array.replicate (states.size * tokenCount) 0
  let mut gotoIndex : Array Nat := Array.replicate (states.size * ruleCount) 0
  let mut masks : Array Nat := #[]
  let mut externals : Array Nat := #[]
  for i in [0:states.size] do
    let s := states.getD i default
    if i == 0 then
      for old in bitsOf g.tokenCount recovery do
        cellIndex := cellIndex.set! (newToken.getD old 0) 1
    for old in bitsOf g.tokenCount extras do
      cellIndex := cellIndex.set! (i * tokenCount + newToken.getD old 0) 2
    for k in [0:s.tokens.size] do
      let cell := s.cells.getD k {}
      let key := (cell.reductions, cell.shift.getD 0, cell.repetition)
      let mut a := 0
      match known[key]? with
      | some j => a := j
      | none =>
        a := actions.size
        known := known.insert key a
        let action : Action :=
          if accepting cell.reductions then { accept := true }
          else
            { reductions := reductions.getD cell.reductions #[]
              shift := cell.shift
              repetition := cell.repetition }
        actions := actions.push action
      cellIndex := cellIndex.set! (i * tokenCount + newToken.getD (s.tokens.getD k 0) 0) a
    for k in [0:s.rules.size] do
      gotoIndex := gotoIndex.set! (i * ruleCount + s.rules.getD k 0) (s.targets.getD k 0 + 1)
    let mask := if i == 0 then recovery ||| extras else s.mask extras
    masks := masks.push mask
    let mut valid := mask % (1 <<< g.externals.size)
    for e in [0:g.externals.size] do
      match (g.externals.getD e default).twin with
      | some t => if mask.testBit (base + t) then valid := valid ||| (1 <<< e)
      | none => pure ()
    externals := externals.push valid
  let modes := Modes.ofMasks c masks
  let n := g.tokens.size
  let keywords := (bitsOf n c.keywords).foldl (fun (m : Std.HashMap String Nat) t =>
    match (g.tokens.getD t default).body.literal? with
    | some text => m.insert text (newToken.getD (base + t) 0)
    | none => m) ∅
  return {
    tokenCount
    symbolCount := tokenCount + ruleCount
    names := shown.map (·.1)
    visible := shown.map (·.2.1)
    named := shown.map (·.2.2)
    lexicon := c.lexicon
    lexical := (Array.range n).map fun t => newToken.getD (base + t) 0
    external := (Array.range g.externals.size).map fun e => newToken.getD e 0
    keywords
    keywordLength := keywords.fold (fun n word _ => max n word.length) 0
    actions
    cellIndex
    gotoIndex
    ruleCount
    shapes := b.plan.shapes.map fun s =>
      { aliases := s.aliases.toArray
        fields := s.fields.filterMap fun (f, i, handedUp) => if handedUp then none else some (f, i)
        handedUp := s.fields.filterMap fun (f, i, handedUp) => if handedUp then some (f, i) else none }
    modes := modes.sets.map fun set => (bitsOf n set, set.testBit n)
    modeOf := modes.modeOf
    externals
    sought := masks.map (· >>> base)
    rivals := order.map fun old =>
      if old < base then 0
      else (List.range n).foldl (fun m u =>
        if (c.overlap.overlaps.getD u 0).testBit (old - base) then m ||| (1 <<< u) else m) 0 }

/-- The tables of a grammar. -/
def Tables.ofGrammar (grammar : RuleSet) : Tables :=
  let (g, owned) := (Draft.ofGrammar grammar).extractTokens.flatten.defaultAliases
  let b := Blueprint.ofFlat g owned
  let c := Context.ofBlueprint b
  Tables.ofStates b c owned (b.merged c owned)

end TestLocator.Parsing
