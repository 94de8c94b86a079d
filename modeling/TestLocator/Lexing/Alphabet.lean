import TestLocator.Grammar.Production

/-!
# Character classes

The tokens of a grammar look at characters only through finitely many sets. Two characters that lie
in the same of these sets need not be told apart, so the code points fall into a few classes.

* `Alphabet` — the classes of a grammar's sets;
* `Alphabet.ofSets`, `Alphabet.classOf`, `Alphabet.mask`.
-/

namespace TestLocator.Lexing

open TestLocator.Grammar

mutual

/-- The character sets of a rule. -/
def charSets : Rule Symbol → List CharSet
  | .text s => s.toList.map CharSet.ofChar
  | .chars c => [c]
  | .seq rs => charSetsAll rs
  | .choice rs => charSetsAll rs
  | .repeat1 r => charSets r
  | .marked _ r => charSets r
  | .blank => []
  | .ref _ => []

/-- The character sets of some rules. -/
def charSetsAll : List (Rule Symbol) → List CharSet
  | [] => []
  | r :: rs => charSets r ++ charSetsAll rs

end

/-- Code points grouped into classes. The intervals `[starts i, starts (i + 1))` cover them all and
`classes i` is the class of the `i`-th. -/
structure Alphabet where
  starts : Array Nat
  classes : Array Nat
  /-- The number of classes. -/
  size : Nat
  /-- The classes of the first code points, for speed. -/
  low : Array Nat
  /-- One code point of each class. -/
  members : Array Nat
  deriving Inhabited

/-- Insert into an ascending list without repeats. -/
def insertNat (n : Nat) : List Nat → List Nat
  | [] => [n]
  | m :: rest => if n < m then n :: m :: rest else if n = m then m :: rest else m :: insertNat n rest

/-- The last index in `[lo, hi)` whose start is at most `c`, found by halving in `fuel` steps. -/
def findInterval (starts : Array Nat) (c : Nat) : Nat → Nat → Nat → Nat
  | 0, lo, _ => lo
  | fuel + 1, lo, hi =>
    if hi ≤ lo + 1 then lo
    else
      let mid := (lo + hi) / 2
      if starts.getD mid 0 ≤ c then findInterval starts c fuel mid hi
      else findInterval starts c fuel lo mid

/-- The interval of a code point. -/
def intervalOf (starts : Array Nat) (c : Nat) : Nat := findInterval starts c 32 0 starts.size

/-- The classes that some sets tell apart. -/
def Alphabet.ofSets (sets : List CharSet) : Alphabet :=
  let sets := sets.eraseDups
  let cuts := sets.foldl (fun acc s =>
    s.ranges.foldl (fun acc r => insertNat r.1 (insertNat (r.2 + 1) acc)) acc) [0]
  let (classes, signatures, members) := cuts.foldl
    (fun (acc : Array Nat × Array (List Bool) × Array Nat) c =>
      let signature := sets.map (·.contains c)
      match acc.2.1.findIdx? (· == signature) with
      | some i => (acc.1.push i, acc.2.1, acc.2.2)
      | none => (acc.1.push acc.2.1.size, acc.2.1.push signature, acc.2.2.push c))
    (#[], #[], #[])
  let starts := cuts.toArray
  { starts, classes, size := signatures.size, members
    low := (Array.range 128).map fun c => classes.getD (intervalOf starts c) 0 }

/-- The class of a code point. -/
def Alphabet.classOf (a : Alphabet) (c : Nat) : Nat :=
  if c < 128 then a.low.getD c 0 else a.classes.getD (intervalOf a.starts c) 0

/-- The classes inside a set, as the bits of a number. -/
def Alphabet.mask (a : Alphabet) (s : CharSet) : Nat :=
  (List.range a.size).foldl (fun m i =>
    if s.contains (a.members.getD i 0) then m ||| (1 <<< i) else m) 0

end TestLocator.Lexing
