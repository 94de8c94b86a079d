import TestLocator.Lexing.Alphabet

/-!
# Token machines

A token's pattern becomes a deterministic machine over character classes. Its states are what is
left of the pattern after some characters.

* `Pattern`, `Pattern.nullable`, `Pattern.after` — patterns over classes and what is left of them;
* `Machine`, `Machine.ofPattern` — the machine of a pattern;
* `Token`, `Lexicon`, `Lexicon.ofFlat` — the tokens of a grammar with their machines and ranks.

State `0` of a machine is its start. A token that may follow blanks stays there on a blank.
-/

namespace TestLocator.Lexing

open TestLocator.Grammar

/-- A pattern over character classes; a set of classes is the bits of a number. -/
inductive Pattern where
  | never
  | done
  | classes (mask : Nat)
  | seq (first rest : Pattern)
  | alt (options : List Pattern)
  | star (body : Pattern)
  deriving Inhabited

namespace Pattern

mutual

/-- Equality of patterns. -/
def same : Pattern → Pattern → Bool
  | never, never => true
  | done, done => true
  | classes a, classes b => a == b
  | seq a b, seq c d => same a c && same b d
  | alt as, alt bs => sameAll as bs
  | star a, star b => same a b
  | _, _ => false

/-- Equality of lists of patterns. -/
def sameAll : List Pattern → List Pattern → Bool
  | [], [] => true
  | a :: as, b :: bs => same a b && sameAll as bs
  | _, _ => false

end

/-- One after the other. -/
def followedBy : Pattern → Pattern → Pattern
  | never, _ => never
  | done, r => r
  | seq a b, r => seq a (followedBy b r)
  | _, never => never
  | p, r => seq p r

/-- The options of a pattern. -/
def options : Pattern → List Pattern
  | never => []
  | alt ps => ps
  | p => [p]

/-- One or the other. -/
def orElse (p q : Pattern) : Pattern :=
  match (p.options ++ q.options).foldl
    (fun acc r => if acc.any (same r) then acc else acc ++ [r]) [] with
  | [] => never
  | [r] => r
  | rs => alt rs

mutual

/-- Whether the pattern matches the empty text. -/
def nullable : Pattern → Bool
  | done => true
  | star _ => true
  | seq a b => nullable a && nullable b
  | alt ps => nullableAny ps
  | _ => false

/-- Whether one of the patterns matches the empty text. -/
def nullableAny : List Pattern → Bool
  | [] => false
  | p :: ps => nullable p || nullableAny ps

end

mutual

/-- What is left of the pattern after a character of a class. -/
def after (c : Nat) : Pattern → Pattern
  | classes m => if m.testBit c then done else never
  | seq a b =>
    let first := (after c a).followedBy b
    if a.nullable then first.orElse (after c b) else first
  | alt ps => afterAny c ps
  | star p => (after c p).followedBy (star p)
  | _ => never

/-- What is left of one of the patterns. -/
def afterAny (c : Nat) : List Pattern → Pattern
  | [] => never
  | p :: ps => (after c p).orElse (afterAny c ps)

end

/-- A text, character by character. -/
def ofText (a : Alphabet) (s : String) : Pattern :=
  s.toList.foldr (fun c r => (classes (a.mask (.ofChar c))).followedBy r) done

mutual

/-- The pattern of a token's rule. -/
def ofRule (a : Alphabet) : Rule Symbol → Pattern
  | .text s => ofText a s
  | .chars c => classes (a.mask c)
  | .seq rs => ofSeq a rs
  | .choice rs => ofChoice a rs
  | .repeat1 r => let p := ofRule a r; p.followedBy (star p)
  | .marked _ r => ofRule a r
  | .blank => done
  | .ref _ => never

/-- The pattern of a sequence. -/
def ofSeq (a : Alphabet) : List (Rule Symbol) → Pattern
  | [] => done
  | r :: rs => (ofRule a r).followedBy (ofSeq a rs)

/-- The pattern of a choice. -/
def ofChoice (a : Alphabet) : List (Rule Symbol) → Pattern
  | [] => never
  | r :: rs => (ofRule a r).orElse (ofChoice a rs)

end

end Pattern

/-- A deterministic machine over `width` classes. The move from state `s` on class `c` is entry
`s * width + c` of `moves`, one more than the next state, or `0` where there is none. -/
structure Machine where
  width : Nat
  moves : Array Nat
  accepting : Array Bool
  deriving Inhabited

namespace Machine

/-- The state after a class, if the machine goes on. -/
def next (m : Machine) (state cls : Nat) : Option Nat :=
  match m.moves.getD (state * m.width + cls) 0 with
  | 0 => none
  | s + 1 => some s

/-- Whether the text so far is a whole token. -/
def accepts (m : Machine) (state : Nat) : Bool := m.accepting.getD state false

/-- The states while a machine is built: what is left of the pattern in each. -/
structure Build where
  lefts : Array Pattern
  moves : Array Nat := #[]
  deriving Inhabited

/-- The state of a pattern, with the build that has it. -/
def Build.state (b : Build) (p : Pattern) : Nat × Build :=
  match b.lefts.findIdx? (p.same ·) with
  | some i => (i, b)
  | none => (b.lefts.size, { b with lefts := b.lefts.push p })

/-- Add the moves of one state. -/
def Build.addMoves (b : Build) (width : Nat) (p : Pattern) : Build :=
  (List.range width).foldl (fun b c =>
    match p.after c with
    | .never => { b with moves := b.moves.push 0 }
    | q =>
      let (i, b) := b.state q
      { b with moves := b.moves.push (i + 1) }) b

/-- Add the moves of all states from an index on. -/
def Build.run (width : Nat) : Nat → Nat → Build → Build
  | 0, _, b => b
  | fuel + 1, i, b =>
    match b.lefts[i]? with
    | none => b
    | some p => Build.run width fuel (i + 1) (b.addMoves width p)

/-- No token of a grammar has more states than this. -/
def maxStates : Nat := 4096

/-- The machine of a pattern. -/
def ofPattern (width : Nat) (p : Pattern) : Machine :=
  let b := Build.run width maxStates 0 { lefts := #[p] }
  { width, moves := b.moves, accepting := b.lefts.map (·.nullable) }

end Machine

/-- A token with its machine and what ranks it among tokens that match the same text. -/
structure Token where
  machine : Machine
  /-- The token must start where the last one ended. -/
  immediate : Bool
  prec : Int
  /-- Texts rank before patterns, and immediate tokens before others. -/
  rank : Nat
  deriving Inhabited

/-- The tokens of a grammar over one alphabet. -/
structure Lexicon where
  alphabet : Alphabet
  tokens : Array Token
  /-- The classes of blanks, as bits. -/
  blanks : Nat
  deriving Inhabited

/-- The rank of a token's rule. -/
def rankOf : Rule Symbol → Nat
  | .text _ => 2
  | .marked m r => if m.immediate then rankOf r + 1 else rankOf r
  | _ => 0

/-- The precedence of a token's rule. -/
def precOf : Rule Symbol → Int
  | .marked m _ =>
    match m.prec with
    | some (.level n) => n
    | _ => 0
  | _ => 0

/-- Whether a token's rule is immediate. -/
def isImmediate : Rule Symbol → Bool
  | .marked m _ => m.immediate
  | _ => false

/-- The tokens of a grammar with their machines. -/
def Lexicon.ofFlat (g : Flat) : Lexicon :=
  let alphabet := Alphabet.ofSets
    (charSetsAll (g.separators ++ g.tokens.toList.map (·.body)))
  { alphabet
    tokens := g.tokens.map fun t =>
      { machine := .ofPattern alphabet.size (.ofRule alphabet t.body)
        immediate := isImmediate t.body
        prec := precOf t.body
        rank := rankOf t.body }
    blanks := (charSetsAll g.separators).foldl (fun m s => m ||| alphabet.mask s) 0 }

/-- Whether a class is blank. -/
def Lexicon.isBlank (l : Lexicon) (cls : Nat) : Bool := l.blanks.testBit cls

/-- A token before any of its characters stays there on a blank, unless it is immediate. -/
def Lexicon.skips (l : Lexicon) (token state cls : Nat) : Bool :=
  state == 0 && l.isBlank cls && !(l.tokens[token]?.getD default).immediate

/-- Whether the first of two tokens, by index, wins on the same text. -/
def Lexicon.prefers (l : Lexicon) (a b : Nat) : Bool :=
  let s := l.tokens[a]?.getD default
  let t := l.tokens[b]?.getD default
  if s.prec != t.prec then s.prec > t.prec
  else if s.rank != t.rank then s.rank > t.rank
  else a < b

end TestLocator.Lexing
