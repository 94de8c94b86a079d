import TestLocator.Automaton.Build
import TestLocator.Lexing.Overlap

/-!
# Tokens in context

Which tokens can stand next to each other or be looked for at the same place, as far as the states
of an automaton show. From this follow the keywords, the tokens that a lost parser looks for, and
the tokens that may be added to what a state looks for.

* `Context`, `Context.ofBlueprint`;
* `Context.keywords` — tokens that are read as the word token first;
* `Context.recoveryTokens` — the tokens that a lost parser looks for;
* `Context.bars` — for each token, those beside which it must not be looked for anew.
-/

namespace TestLocator.Automaton

open TestLocator.Grammar TestLocator.Lexing

/-- For each lexical token the lexical tokens that can follow it. -/
def Flat.following (g : Flat) (first : Array Nat) : Array Nat :=
  let base := g.lexicalIndex 0
  let last := edgeSets g fun p => p.steps.back?
  let all := (1 <<< g.tokens.size) - 1
  let none : Array Nat := Array.replicate g.tokens.size 0
  let pairs := g.rules.foldl (fun acc r =>
    r.productions.foldl (fun acc p =>
      (p.steps.zip (p.steps.extract 1 p.steps.size)).foldl (fun acc (a, b) =>
        let pair := (a.symbol, b.symbol)
        if acc.contains pair then acc else acc.insert pair ()) acc) acc)
    (∅ : Std.HashMap (Symbol × Symbol) Unit)
  let merged := pairs.toList.foldl (fun (acc : Array Nat) (pair, _) =>
    let lefts := firstOf g last pair.1 >>> base
    let rights := firstOf g first pair.2 >>> base
    (bitsOf g.tokens.size lefts).foldl (fun acc t => acc.modify t (· ||| rights)) acc) none
  g.extras.foldl (fun acc e =>
    match e with
    | .terminal t => (acc.map (· ||| (1 <<< t))).set! t all
    | _ => acc) merged

/-- What the states of an automaton say about its tokens. -/
structure Context where
  flat : Flat
  lexicon : Lexicon
  overlap : OverlapTable
  /-- The distinct sets of tokens that states look for. -/
  masks : Array Nat
  /-- For each lexical token the lexical tokens of the states that look for it. -/
  together : Array Nat
  /-- The lexical tokens that are read as the word token first. -/
  keywords : Nat
  deriving Inhabited

/-- The set of tokens that a state looks for, extras included. -/
def State.mask (s : State) (extras : Nat) : Nat :=
  s.tokens.foldl (fun m t => m ||| (1 <<< t)) extras

/-- Whether a character is a letter, as far as keywords go, or an underscore. -/
def isWordStart (c : Nat) : Bool :=
  (65 ≤ c && c ≤ 90) || (97 ≤ c && c ≤ 122) || c == 95 || 128 ≤ c

/-- Tokens that start with letters only and match nothing but what the word token matches. -/
def keywordCandidates (l : Lexicon) (o : OverlapTable) (word : Nat) : Nat :=
  (List.range l.tokens.size).foldl (fun m t =>
    let letters := (List.range l.alphabet.size).all fun c =>
      match l.step t 0 c with
      | some (_, false) => isWordStart (l.alphabet.members.getD c 0)
      | _ => true
    if letters && (o.sameText.getD t 0).testBit word && !(o.ownText.getD t 0).testBit word
    then m ||| (1 <<< t) else m) 0

/-- The keywords: candidates that no other candidate shadows, and in whose place the word token
would not overlap other tokens in another way. -/
def keywordsOf (l : Lexicon) (o : OverlapTable) (word : Nat) (masks : Array Nat) : Nat :=
  let n := l.tokens.size
  let candidates := keywordCandidates l o word
  let besides (t : Nat) : Nat := masks.foldl (fun m set =>
    if set.testBit t && !set.testBit word then m ||| set else m) 0
  (List.range n).foldl (fun m t =>
    if candidates.testBit t
      && !((List.range n).any fun u =>
        u != t && candidates.testBit u && (o.sameText.getD u 0).testBit t)
      && (let others := besides t
          (List.range n).all fun u =>
            candidates.testBit u || !others.testBit u || o.get t u == o.get word u)
    then m ||| (1 <<< t) else m) 0

/-- What the states of an automaton say about its tokens. -/
def Context.ofBlueprint (b : Blueprint) : Context :=
  let g := b.plan.flat
  let lexicon := Lexicon.ofFlat g
  let overlap := OverlapTable.ofLexicon lexicon (Flat.following g b.plan.first)
  let extras := g.extraMask
  let base := g.lexicalIndex 0
  let masks := (b.states.foldl (fun (acc : Std.HashMap Bits Unit) s =>
    acc.insert ⟨s.mask extras >>> base⟩ ()) ∅).toArray.map (·.1.mask)
  let none : Array Nat := Array.replicate g.tokens.size 0
  let together := masks.foldl (fun acc set =>
    (bitsOf g.tokens.size set).foldl (fun (acc : Array Nat) t => acc.modify t (· ||| set)) acc) none
  { flat := g, lexicon, overlap, masks, together
    keywords := keywordsOf lexicon overlap g.word masks }

/-- The lexical tokens that a lost parser looks for: those that can be told from every token that
never stands where they do. -/
def Context.recoveryTokens (c : Context) : Nat :=
  let n := c.lexicon.tokens.size
  let apart (t : Nat) (sets : Array Nat) : Nat :=
    let set := sets.getD t 0
    set ^^^ (set &&& c.together.getD t 0)
  let clear := (List.range n).foldl (fun m t =>
    if apart t c.overlap.longer == 0 then m ||| (1 <<< t) else m) 0
  (List.range n).foldl (fun m t =>
    if clear.testBit t || c.keywords.testBit t || t == c.flat.word
      || apart t c.overlap.conflicts &&& clear == 0
    then m ||| (1 <<< t) else m) 0

/-- For each token, the tokens beside which a state must not look for it anew. External tokens are
barred everywhere, and so are those that the hand-written scanner also looks at. -/
def Context.bars (c : Context) : Array (Option Nat) :=
  let g := c.flat
  let base := g.lexicalIndex 0
  let isTwin (t : Nat) : Bool := g.externals.any fun e => e.twin == some t
  (Array.range g.tokenCount).map fun i =>
    if i < g.eofIndex then none
    else if i == g.eofIndex then some 0
    else
      let t := i - base
      if isTwin t then none
      else
        let set := c.overlap.conflicts.getD t 0 ||| c.overlap.sameText.getD t 0
        let set := if c.keywords.testBit t then set ^^^ (set &&& (1 <<< g.word)) else set
        let set := if t == g.word then set ^^^ (set &&& c.keywords) else set
        some (set <<< base)

end TestLocator.Automaton
