/-!
# Source texts

A text as an array of characters with the bytes and the line ends before each of them, so that the
extent of any piece is a difference.

* `Extent` — a number of characters, bytes and line ends;
* `Source`, `Source.ofString`, `Source.codeAt`, `Source.between`.
-/

namespace TestLocator.Parsing

/-- How much text: characters, bytes and line ends. -/
structure Extent where
  chars : Nat := 0
  bytes : Nat := 0
  rows : Nat := 0
  deriving DecidableEq, Inhabited, Repr

/-- One piece after another. -/
def Extent.add (a b : Extent) : Extent := ⟨a.chars + b.chars, a.bytes + b.bytes, a.rows + b.rows⟩

instance : Add Extent := ⟨Extent.add⟩

/-- A text with what stands before each character. -/
structure Source where
  text : String
  codes : Array Nat
  /-- The bytes before each character, and those of the whole text last. -/
  bytes : Array Nat
  /-- The line ends before each character, and those of the whole text last. -/
  rows : Array Nat
  /-- The number of the first character of each line. -/
  lines : Array Nat
  deriving Inhabited

namespace Source

/-- The sums of the numbers before each number, and that of all numbers last. -/
def sumsBefore (ns : List Nat) : Array Nat :=
  (ns.foldl (fun (sums, total) n => (sums.push (total + n), total + n)) (#[0], 0)).1

/-- Lay out a text. -/
def ofString (s : String) : Source :=
  let cs := s.toList
  { text := s
    codes := (cs.map Char.toNat).toArray
    bytes := sumsBefore (cs.map Char.utf8Size)
    rows := sumsBefore (cs.map fun c => if c = '\n' then 1 else 0)
    lines := (0 :: cs.zipIdx.filterMap fun (c, i) =>
      if c = '\n' then some (i + 1) else none).toArray }

/-- The number of characters. -/
def size (s : Source) : Nat := s.codes.size

/-- The character at a place; `NUL` at the end. -/
def codeAt (s : Source) (i : Nat) : Nat := s.codes.getD i 0

/-- Whether a place is the end. -/
def isEnd (s : Source) (i : Nat) : Bool := s.size ≤ i

/-- The extent of the characters from `i` to before `j`. -/
def between (s : Source) (i j : Nat) : Extent :=
  ⟨j - i, s.bytes.getD j 0 - s.bytes.getD i 0, s.rows.getD j 0 - s.rows.getD i 0⟩

/-- The line of a place, from `0`. -/
def rowOf (s : Source) (i : Nat) : Nat := s.rows.getD i 0

/-- The bytes before a place in its line. -/
def columnOf (s : Source) (i : Nat) : Nat :=
  s.bytes.getD i 0 - s.bytes.getD (s.lines.getD (s.rowOf i) 0) 0

/-- The characters from `i` to before `j`. -/
def slice (s : Source) (i j : Nat) : String :=
  String.ofList ((s.codes.extract i j).toList.map Char.ofNat)

end Source

end TestLocator.Parsing
