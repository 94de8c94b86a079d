import TestLocator.Lexing.Machine

/-!
# How tokens overlap

Two tokens can match the same text, or one can match a longer text that starts with a text of the
other. What a scanner may look for at one place depends on these overlaps.

* `Overlap` — how one token overlaps another;
* `Lexicon.overlapOf` — the overlap of two tokens, found by running both machines side by side;
* `OverlapTable`, `OverlapTable.ofLexicon` — the overlaps of all tokens, as sets.
-/

namespace TestLocator.Lexing

open TestLocator.Grammar

/-- How one token overlaps another. -/
structure Overlap where
  /-- It ends where the other would go on but must not. -/
  endsInside : Bool := false
  /-- It goes on where the other has ended. -/
  goesOn : Bool := false
  /-- It goes on by a character that may also follow the other. -/
  goesOnValidly : Bool := false
  /-- It ends where the other still skips blanks. -/
  takesBlanks : Bool := false
  /-- It wins a text that both match. -/
  sameText : Bool := false
  /-- It matches a text that the other does not match. -/
  ownText : Bool := false
  deriving BEq, Inhabited, Repr

/-- The state of a token after a class, with whether the class was skipped. -/
def Lexicon.step (l : Lexicon) (token state cls : Nat) : Option (Nat × Bool) :=
  let t := l.tokens.getD token default
  if l.skips token state cls then some (0, true)
  else (t.machine.next state cls).map fun s => (s, false)

/-- The precedence of a step: skipping has none. -/
def Lexicon.stepPrec (l : Lexicon) (token : Nat) : Nat × Bool → Int
  | (_, true) => 0
  | (_, false) => (l.tokens.getD token default).prec

/-- Whether a scanner that has a whole token goes on by a step all the same. The step has a
precedence and may be skipping; `canSkip` tells whether blanks could be skipped here, `keeps`
whether the whole token goes on too. -/
def prefersStep (prec : Int) (skipping : Bool) (whole : Int) (canSkip keeps : Bool) : Bool :=
  if prec < whole then false
  else if prec == whole then !skipping && (!canSkip || keeps)
  else true

/-- The overlaps of two tokens while both machines run. -/
structure Overlaps where
  left : Overlap := {}
  right : Overlap := {}
  deriving Inhabited

/-- One state of two machines that run side by side. -/
def Lexicon.overlapStep (l : Lexicon) (follow : Array Nat) (i j s t : Nat) (o : Overlaps) :
    Overlaps × List (Nat × Nat) := Id.run do
  let a := l.tokens.getD i default
  let b := l.tokens.getD j default
  let canSkip := (s == 0 && !a.immediate) || (t == 0 && !b.immediate)
  let wholeA := a.machine.accepts s
  let wholeB := b.machine.accepts t
  let mut o := o
  if wholeA && canSkip then o := { o with left := { o.left with takesBlanks := true } }
  if wholeB && canSkip then o := { o with right := { o.right with takesBlanks := true } }
  let leftWins := wholeA && (!wholeB || l.prefers i j)
  if wholeA && wholeB then
    if leftWins then o := { o with left := { o.left with sameText := true } }
    else o := { o with right := { o.right with sameText := true } }
  let mut next : List (Nat × Nat) := []
  for c in [0:l.alphabet.size] do
    match l.step i s c, l.step j t c with
    | none, none => pure ()
    | some x, some y => next := (x.1, y.1) :: next
    | some x, none =>
      o := { o with left := { o.left with ownText := true } }
      if wholeB && !leftWins then
        if prefersStep (l.stepPrec i x) x.2 b.prec canSkip false then
          let valid := (follow.getD j 0).testBit c
          o := { o with left := { o.left with
            goesOn := true, goesOnValidly := o.left.goesOnValidly || valid } }
        else o := { o with right := { o.right with endsInside := true } }
    | none, some y =>
      o := { o with right := { o.right with ownText := true } }
      if leftWins then
        if prefersStep (l.stepPrec j y) y.2 a.prec canSkip false then
          let valid := (follow.getD i 0).testBit c
          o := { o with right := { o.right with
            goesOn := true, goesOnValidly := o.right.goesOnValidly || valid } }
        else o := { o with left := { o.left with endsInside := true } }
  return (o, next)

/-- Run two machines side by side from the states still to visit. -/
def Lexicon.overlapRun (l : Lexicon) (follow : Array Nat) (i j : Nat) :
    Nat → List (Nat × Nat) → List (Nat × Nat) → Overlaps → Overlaps
  | 0, _, _, o => o
  | _, [], _, o => o
  | fuel + 1, p :: rest, seen, o =>
    if seen.contains p then l.overlapRun follow i j fuel rest seen o
    else
      let (o, next) := l.overlapStep follow i j p.1 p.2 o
      l.overlapRun follow i j fuel (next ++ rest) (p :: seen) o

/-- More steps than this no two machines take side by side. -/
def overlapFuel : Nat := 1000000

/-- How two tokens overlap, given the classes that may follow each token. -/
def Lexicon.overlapOf (l : Lexicon) (follow : Array Nat) (i j : Nat) : Overlaps :=
  l.overlapRun follow i j overlapFuel [(0, 0)] [] {}

/-- The classes that can start a token, blanks before it included. -/
def Lexicon.startClasses (l : Lexicon) (token : Nat) : Nat :=
  (List.range l.alphabet.size).foldl (fun m c =>
    if (l.step token 0 c).isSome then m ||| (1 <<< c) else m) 0

/-- The overlaps of all tokens. Every table has for each token the set of other tokens. -/
structure OverlapTable where
  /-- The token wins a text of the other, or goes on past it in a way that could be meant. -/
  conflicts : Array Nat
  /-- The token ends where the other would go on. -/
  endsInside : Array Nat
  /-- The token and the other share a text, or a start of one. -/
  overlaps : Array Nat
  /-- The token goes on past the other in a way that could be meant. -/
  longer : Array Nat
  sameText : Array Nat
  ownText : Array Nat
  /-- The overlap of each token with each token, row by row. -/
  all : Array Overlap
  size : Nat
  deriving Inhabited

/-- The overlap of one token with another. -/
def OverlapTable.get (t : OverlapTable) (i j : Nat) : Overlap := t.all.getD (i * t.size + j) {}

/-- The tokens `j` with a property of the overlap of each token `i` with `j`. -/
def tokenSets (n : Nat) (all : Array Overlap) (p : Overlap → Overlap → Bool) : Array Nat :=
  (Array.range n).map fun i => (List.range n).foldl (fun m j =>
    if i != j && p (all.getD (i * n + j) {}) (all.getD (j * n + i) {}) then m ||| (1 <<< j)
    else m) 0

/-- The overlaps of all tokens, given for each the tokens that may follow it. -/
def OverlapTable.ofLexicon (l : Lexicon) (following : Array Nat) : OverlapTable :=
  let n := l.tokens.size
  let starts := (Array.range n).map l.startClasses
  let follow := following.map fun set => (List.range n).foldl (fun m t =>
    if set.testBit t then m ||| starts.getD t 0 else m) 0
  let all := (List.range n).foldl (fun (all : Array Overlap) i =>
    (List.range i).foldl (fun all j =>
      let o := l.overlapOf follow i j
      (all.set! (i * n + j) o.left).set! (j * n + i) o.right) all)
    (Array.replicate (n * n) {})
  { conflicts := tokenSets n all fun o _ => o.goesOnValidly || o.takesBlanks || o.sameText
    endsInside := tokenSets n all fun o _ => o.endsInside
    overlaps := tokenSets n all fun o _ => o.takesBlanks || o.endsInside || o.sameText || o.goesOn
    longer := tokenSets n all fun o r => (o.goesOnValidly || o.takesBlanks) && !r.takesBlanks
    sameText := tokenSets n all fun o _ => o.sameText
    ownText := tokenSets n all fun o _ => o.ownText
    all
    size := n }

end TestLocator.Lexing
