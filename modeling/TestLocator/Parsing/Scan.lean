import TestLocator.Parsing.Tree

/-!
# Scanning tokens

A scanner finds the next token that a parser looks for. All tokens of a mode run side by side; a
hand-written scanner of the grammar goes first. Where no token is found, characters are skipped
until there is one.

* `External` — a hand-written scanner and what it finds;
* `Scan`, `Tables.scanMode` — the run of one mode;
* `Tables.lex` — the next token of a state.
-/

namespace TestLocator.Parsing

open TestLocator.Lexing

/-- What a hand-written scanner finds: an external token and where its text starts and ends. -/
structure Found where
  token : Nat
  start : Nat
  stop : Nat
  deriving Repr, Inhabited

/-- A hand-written scanner: from a place, given the external tokens looked for as bits. -/
abbrev External := Source → Nat → Nat → Option Found

/-- What a run of a mode came to. -/
structure Scan where
  /-- The symbol found, if any, and where it ends. -/
  found : Option (Nat × Nat)
  /-- Where the text of the token starts. -/
  start : Nat
  /-- How far the scanner has read. -/
  read : Nat
  deriving Repr, Inhabited

/-- The byte-order mark. -/
def byteOrderMark : Nat := 0xFEFF

/-- Where scanning starts: a byte-order mark at the front of the text is passed over. -/
def Source.scanStart (s : Source) (i : Nat) : Nat :=
  if i == 0 && s.codeAt 0 == byteOrderMark then 1 else i

/-- The winner among whole tokens. -/
def bestToken (l : Lexicon) (live : Array (Nat × Nat)) : Option Nat :=
  live.foldl (fun best (t, s) =>
    if (l.tokens.getD t default).machine.accepts s then
      match best with
      | some b => if l.prefers b t then best else some t
      | none => some t
    else best) none

/-- Run tokens side by side from a place, in `fuel` steps. -/
def runTokens (tables : Tables) (src : Source) :
    Nat → Array (Nat × Nat) → Bool → Nat → Scan → Scan
  | 0, _, _, _, r => r
  | fuel + 1, live, mayEnd, i, r =>
    let l := tables.lexicon
    let best := bestToken l live
    let r := match best with
      | some t => { r with found := some (tables.lexical.getD t 0, i), read := i }
      | none => { r with read := i }
    if src.isEnd i then
      if mayEnd then { r with found := some (0, i) } else r
    else
      let cls := l.alphabet.classOf (src.codeAt i)
      let steps := live.filterMap fun (t, s) => (l.step t s cls).map fun x => (t, x)
      if steps.isEmpty then r
      else
        let skipping := steps.all fun (_, x) => x.2
        let precs : List Int := steps.toList.map fun (t, x) => l.stepPrec t x
        let prec := precs.max?.getD 0
        let canSkip := live.any fun (t, s) => s == 0 && !(l.tokens.getD t default).immediate
        let goes := match best with
          | some b => prefersStep prec skipping (l.tokens.getD b default).prec canSkip
              (steps.any fun (t, _) => t == b)
          | none => true
        if goes then
          runTokens tables src fuel (steps.map fun (t, x) => (t, x.1)) (mayEnd && skipping) (i + 1)
            (if skipping then { r with start := i + 1 } else r)
        else r

/-- Run a mode from a place. -/
def Tables.scanMode (tables : Tables) (src : Source) (mode i : Nat) : Scan :=
  let (tokens, mayEnd) := tables.modes.getD mode default
  let i := src.scanStart i
  runTokens tables src (src.size + 2) (tokens.map fun t => (t, 0)) mayEnd i
    { found := none, start := i, read := i }

/-- What `Tables.lex` has come to while it passes over characters. -/
structure Skipping where
  /-- The scanner now looks for what a lost parser looks for. -/
  lost : Bool
  /-- Where the characters that are no token start and end. -/
  bad : Option (Nat × Nat) := none

/-- A token, or the characters passed over, as a tree. -/
inductive Lexed where
  | token (symbol start stop : Nat) (external : Bool)
  | skipped (start stop : Nat)

/-- Find the next token, in `fuel` tries. An empty external token that would not change anything is
passed over. -/
def lexLoop (tables : Tables) (external : External) (src : Source) (state : Nat) (advanced : Bool)
    (origin : Nat) : Nat → Nat → Skipping → Lexed
  | 0, i, _ => .skipped origin i
  | fuel + 1, i, k =>
    let row := if k.lost then Tables.lost else state
    let hit := (external src (src.scanStart i) (tables.externals.getD row 0)).bind fun f =>
      let symbol := tables.external.getD f.token 0
      let useless := f.stop ≤ i && (k.lost || !advanced || tables.next state symbol == state)
      if useless then none else some f
    match hit with
    | some f =>
      match k.bad with
      | none => .token (tables.external.getD f.token 0) (min f.start f.stop) f.stop true
      | some (a, b) => .skipped a b
    | none =>
      let scan := tables.scanMode src (tables.modeOf.getD row 0) i
      match scan.found with
      | some (symbol, stop) =>
        match k.bad with
        | none => .token symbol (min scan.start stop) stop false
        | some (a, b) => .skipped a b
      | none =>
        if !k.lost then
          lexLoop tables external src state advanced origin fuel origin { k with lost := true }
        else
          let (a, b) := k.bad.getD (scan.start, scan.start)
          if scan.read == b then
            if src.isEnd b then .skipped a b
            else lexLoop tables external src state advanced origin fuel (b + 1)
              { k with bad := some (a, b + 1) }
          else lexLoop tables external src state advanced origin fuel scan.read
            { k with bad := some (a, scan.read) }

/-- Whether a word starts with a keyword. -/
def Tables.startsWithKeyword (tables : Tables) (src : Source) (i j : Nat) : Bool :=
  (List.range (min (j - i) tables.keywordLength)).any fun k =>
    tables.keywords.contains (src.slice i (i + k + 1))

/-- The next token of a state from a place. `advanced` tells whether the parser has moved on since
the last error. A word that spells a keyword which the state knows is that keyword. -/
def Tables.lex (tables : Tables) (external : External) (src : Source) (state : Nat)
    (advanced : Bool) (i : Nat) : Tree :=
  let start : Skipping := { lost := state == Tables.lost }
  match lexLoop tables external src state advanced i (src.size * 2 + 8) i start with
  | .skipped a b => Tree.errorLeaf tables (src.between i a) (src.between a b)
  | .token symbol a b isExternal =>
    let isWord := symbol == Tables.word && !isExternal
    let symbol := match (if isWord then tables.keywords[src.slice a b]? else none) with
      | some k => if tables.hasAction state k then k else symbol
      | none => symbol
    Tree.leaf symbol (src.between i a) (src.between a b)
      (isWord && tables.startsWithKeyword src a b)

end TestLocator.Parsing
