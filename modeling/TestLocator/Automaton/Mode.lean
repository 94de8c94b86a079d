import TestLocator.Automaton.Merge

/-!
# Scan modes

A scanner looks for the tokens of the state that the parser is in, with every keyword replaced by
the word token. States whose tokens do not get in each other's way share a mode.

* `Modes` — the token sets, and the mode of every state;
* `Modes.ofStates`.
-/

namespace TestLocator.Automaton

open TestLocator.Grammar TestLocator.Lexing

/-- What a scanner looks for in each state. -/
structure Modes where
  /-- The lexical tokens of each mode, as bits; the end of the text is the bit after the last. -/
  sets : Array Nat
  modeOf : Array Nat
  deriving Inhabited

/-- Whether a token can be looked for beside some tokens. -/
def Context.fits (c : Context) (t beside : Nat) : Bool :=
  let apart := beside ^^^ (beside &&& c.together.getD t 0)
  (c.overlap.conflicts.getD t 0 ||| c.overlap.endsInside.getD t 0) &&& beside == 0
    && c.overlap.overlaps.getD t 0 &&& apart == 0
    && (List.range c.lexicon.tokens.size).all fun u =>
      !apart.testBit u || !(c.overlap.overlaps.getD u 0).testBit t

/-- Whether two sets of tokens can be looked for together. -/
def Context.joinable (c : Context) (a b : Nat) : Bool :=
  let n := c.lexicon.tokens.size
  let tokens := (1 <<< n) - 1
  let both := a &&& b
  let left := (a ^^^ both) &&& tokens
  let right := (b ^^^ both) &&& tokens
  (List.range n).all fun t =>
    (!left.testBit t || c.fits t (b &&& tokens)) && (!right.testBit t || c.fits t (a &&& tokens))

/-- What a scanner looks for in a state. -/
def Context.scanSet (c : Context) (mask : Nat) : Nat :=
  let g := c.flat
  let lexical := mask >>> g.lexicalIndex 0
  let words := lexical &&& c.keywords
  let lexical := lexical ^^^ words
  let lexical := if words != 0 then lexical ||| (1 <<< g.word) else lexical
  if mask.testBit g.eofIndex then lexical ||| (1 <<< c.lexicon.tokens.size) else lexical

/-- The modes of states with these token sets, in their order. -/
def Modes.ofMasks (c : Context) (masks : Array Nat) : Modes := Id.run do
  let mut sets : Array Nat := #[]
  let mut modeOf : Array Nat := #[]
  let mut known : Std.HashMap Bits Nat := ∅
  for mask in masks do
    let set := c.scanSet mask
    -- a set that a mode holds already changes nothing
    match known[(⟨set⟩ : Bits)]? with
    | some m => modeOf := modeOf.push m
    | none =>
      let found := sets.findIdx? fun s => c.joinable s set
      match found with
      | some m =>
        sets := sets.modify m (· ||| set)
        modeOf := modeOf.push m
        known := known.insert ⟨set⟩ m
      | none =>
        modeOf := modeOf.push sets.size
        known := known.insert ⟨set⟩ sets.size
        sets := sets.push set
  return { sets, modeOf }

end TestLocator.Automaton
