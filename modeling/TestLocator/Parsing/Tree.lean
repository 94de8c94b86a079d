import TestLocator.Parsing.Tables
import TestLocator.Parsing.Source

/-!
# Trees

The trees that a parser builds: every symbol that was read is a node, hidden ones too. A node knows
what its errors cost, so that readings can be compared.

* `Info`, `Tree` — nodes;
* `Tree.leaf`, `Tree.missingLeaf`, `Tree.errorLeaf`, `Tree.node`, `Tree.errorNode` — ways to make them;
* `Tree.compare`, `Tree.prefersOther` — which of two readings of the same text is better;
* `splitExtras` — the extras at the end of a list of nodes.
-/

namespace TestLocator.Parsing

/-- What a node knows of itself. -/
structure Info where
  symbol : Nat
  /-- What stands before the node and belongs to it: blanks. -/
  padding : Extent
  size : Extent
  shape : Nat := 0
  /-- The node may stand anywhere. -/
  extra : Bool := false
  /-- The node was not in the text and has been put in. -/
  missing : Bool := false
  /-- The token is a word that starts with a keyword. -/
  keyword : Bool := false
  errorCost : Nat := 0
  dynamic : Int := 0
  /-- The nodes below that show. -/
  descendants : Nat := 0
  /-- The children that show. -/
  shownChildren : Nat := 0
  deriving Inhabited

/-- A node with its children. -/
inductive Tree where
  | node (info : Info) (children : List Tree)
  deriving Inhabited

/-! ## Costs of errors -/

/-- The cost of every place where the parser was lost. -/
def recoveryCost : Nat := 500

/-- The cost of a token that was put in. -/
def missingCost : Nat := 110

/-- The cost of a node inside an error. -/
def skippedTreeCost : Nat := 100

/-- The cost of a byte inside an error. -/
def skippedByteCost : Nat := 1

/-- The cost of a line end inside an error. -/
def skippedLineCost : Nat := 30

namespace Tree

/-- What the node knows of itself. -/
def info : Tree → Info
  | node i _ => i

/-- The children. -/
def children : Tree → List Tree
  | node _ cs => cs

/-- The symbol. -/
def symbol (t : Tree) : Nat := t.info.symbol

/-- Whether the node may stand anywhere. -/
def extra (t : Tree) : Bool := t.info.extra

/-- The text of the node with what stands before it. -/
def total (t : Tree) : Extent := t.info.padding + t.info.size

/-- What the errors in the node cost. -/
def errorCost (t : Tree) : Nat :=
  if t.info.missing then missingCost + recoveryCost else t.info.errorCost

/-- The node with another mark of being an extra. -/
def withExtra (extra : Bool) : Tree → Tree
  | node i cs => node { i with extra } cs

/-- The node with another symbol. -/
def withSymbol (symbol : Nat) : Tree → Tree
  | node i cs => node { i with symbol } cs

/-- The node with more weight. -/
def addDynamic (d : Int) : Tree → Tree
  | node i cs => node { i with dynamic := i.dynamic + d } cs

/-- A token. The end of the text may stand anywhere. -/
def leaf (symbol : Nat) (padding size : Extent) (keyword : Bool) : Tree :=
  node { symbol, padding, size, keyword, extra := symbol == 0 } []

/-- A token that is put in. -/
def missingLeaf (symbol : Nat) : Tree :=
  node { symbol, padding := {}, size := {}, missing := true } []

/-- Characters that are no token. -/
def errorLeaf (tables : Tables) (padding size : Extent) : Tree :=
  node { symbol := tables.error, padding, size } []

/-- Whether a symbol is an error or a piece of one. -/
def isErrorSymbol (tables : Tables) (symbol : Nat) : Bool := tables.symbolCount ≤ symbol

/-- What a child adds to the cost of an error that it stands in. -/
def costInError (tables : Tables) (c : Tree) : Nat :=
  if c.extra || (c.symbol == tables.error && c.children.isEmpty) then 0
  else if tables.isVisible c.symbol then skippedTreeCost
  else if c.children.isEmpty then 0
  else skippedTreeCost * c.info.shownChildren

/-- Add a child to what a node knows of itself. `place` counts the children that are no extras. -/
def summarize (tables : Tables) (aliases : Array (Option Grammar.Alias)) :
    Info → Nat → Bool → List Tree → Info
  | i, _, _, [] => i
  | i, place, isFirst, c :: cs =>
    let padding := if isFirst then c.info.padding else i.padding
    let size := if isFirst then c.info.size else i.size + c.total
    let cost := (if c.symbol == tables.skipped then 0 else c.errorCost) +
      (if isErrorSymbol tables i.symbol then costInError tables c else 0)
    let aliased := !c.extra && c.symbol != 0 && (aliases.getD place none).isSome
    let shows := aliased || tables.isVisible c.symbol
    summarize tables aliases
      { i with
        padding, size
        errorCost := i.errorCost + cost
        dynamic := i.dynamic + c.info.dynamic
        descendants := i.descendants + c.info.descendants + (if shows then 1 else 0)
        shownChildren := i.shownChildren +
          (if shows then 1 else if c.children.isEmpty then 0 else c.info.shownChildren) }
      (if c.extra then place else place + 1) false cs

/-- A node of some children. -/
def ofChildren (tables : Tables) (symbol : Nat) (cs : List Tree) (shape : Nat) : Tree :=
  let aliases := (tables.shapes.getD shape default).aliases
  let i := summarize tables aliases { symbol, padding := {}, size := {}, shape } 0 true cs
  let own := if isErrorSymbol tables symbol
    then recoveryCost + skippedByteCost * i.size.bytes + skippedLineCost * i.size.rows
    else 0
  node { i with errorCost := i.errorCost + own } cs

/-- An error around some children. -/
def errorNode (tables : Tables) (cs : List Tree) (extra : Bool) : Tree :=
  (ofChildren tables tables.error cs 0).withExtra extra

/-- Order of trees: by symbol, then by the number of children, then child by child. -/
def compareAll : Nat → List (Tree × Tree) → Ordering
  | 0, _ => .eq
  | _, [] => .eq
  | fuel + 1, (a, b) :: rest =>
    match compare a.symbol b.symbol with
    | .eq =>
      match compare a.children.length b.children.length with
      | .eq => compareAll fuel (a.children.zip b.children ++ rest)
      | o => o
    | o => o

/-- More nodes than this no tree has. -/
def maxNodes : Nat := 1000000000

/-- Whether the second of two readings of the same text is better: it has less errors, or more
weight, or comes first in the order of trees. -/
def prefersOther (a b : Tree) : Bool :=
  if a.errorCost != b.errorCost then b.errorCost < a.errorCost
  else if a.info.dynamic != b.info.dynamic then a.info.dynamic < b.info.dynamic
  else if a.errorCost > 0 then true
  else compareAll maxNodes [(a, b)] == .gt

end Tree

/-- Split off the extras at the end. -/
def splitExtras (ts : List Tree) : List Tree × List Tree :=
  let r := ts.reverse
  ((r.dropWhile (·.extra)).reverse, (r.takeWhile (·.extra)).reverse)

end TestLocator.Parsing
