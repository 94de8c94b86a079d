/-!
# Sets of characters

A set of code points, kept as inclusive ranges. Tokens of a grammar are written with these sets.

* `CharSet`, `CharSet.contains`;
* `CharSet.ofRange`, `CharSet.ofChars`, `CharSet.union`, `CharSet.compl`.

The character `NUL` stands for "no character" in the scanners of this library, so a complement
never holds it.
-/

namespace TestLocator.Grammar

/-- A set of code points as a list of inclusive ranges, ascending and disjoint. -/
structure CharSet where
  ranges : List (Nat × Nat)
  deriving Repr, DecidableEq, Inhabited

namespace CharSet

/-- The empty set. -/
def empty : CharSet := ⟨[]⟩

/-- Membership of a code point. -/
def contains (s : CharSet) (c : Nat) : Bool := s.ranges.any fun r => r.1 ≤ c && c ≤ r.2

/-- All code points from `lo` to `hi`. -/
def ofRange (lo hi : Char) : CharSet := ⟨[(lo.toNat, hi.toNat)]⟩

/-- Put one range in front of ascending ranges, swallowing those it touches. -/
def insertRange (lo hi : Nat) : List (Nat × Nat) → List (Nat × Nat)
  | [] => [(lo, hi)]
  | (a, b) :: rest =>
    if hi + 1 < a then (lo, hi) :: (a, b) :: rest
    else if b + 1 < lo then (a, b) :: insertRange lo hi rest
    else insertRange (min lo a) (max hi b) rest

/-- Union of two sets. -/
def union (s t : CharSet) : CharSet :=
  ⟨t.ranges.foldl (fun acc r => insertRange r.1 r.2 acc) s.ranges⟩

instance : Append CharSet := ⟨union⟩

/-- One character. -/
def ofChar (c : Char) : CharSet := ofRange c c

/-- The characters of a text. -/
def ofChars (s : String) : CharSet := s.toList.foldl (fun acc c => acc ++ ofChar c) empty

/-- The last code point. -/
def lastCode : Nat := 0x10FFFF

/-- The gaps between ascending ranges, from `start` to the last code point. -/
def gaps (start : Nat) : List (Nat × Nat) → List (Nat × Nat)
  | [] => if start ≤ lastCode then [(start, lastCode)] else []
  | (a, b) :: rest => if start < a then (start, a - 1) :: gaps (b + 1) rest else gaps (b + 1) rest

/-- All characters but those of the set, and but `NUL`. -/
def compl (s : CharSet) : CharSet := ⟨gaps 1 s.ranges⟩

/-- The decimal digits. -/
def digit : CharSet := ofRange '0' '9'

/-- The hexadecimal digits. -/
def hexDigit : CharSet := digit ++ ofRange 'a' 'f' ++ ofRange 'A' 'F'

/-- The blanks of the basic Latin block. -/
def blank : CharSet := ofChars " \t\n\r" ++ ofRange '\x0b' '\x0c'

end CharSet

end TestLocator.Grammar
