import TestLocator.Parsing.Concrete
import TestLocator.Parsing.Tree

/-!
# What shows of a tree

Hidden nodes give way to their children, aliases rename nodes, and fields name them: what is left is
the concrete tree.

* `Tree.size` — the number of nodes, hidden ones too;
* `Piece`, `Piece.shownBelow` — the nodes that show directly below a node;
* **`Concrete.ofTree`** — the concrete tree, down to some level.
-/

namespace TestLocator.Parsing

open TestLocator.Grammar

namespace Tree

mutual

/-- The number of nodes. -/
def size : Tree → Nat
  | node _ cs => 1 + sizeAll cs

/-- The number of nodes of some trees. -/
def sizeAll : List Tree → Nat
  | [] => 0
  | c :: cs => c.size + sizeAll cs

end

theorem size_eq (t : Tree) : t.size = 1 + sizeAll t.children := by
  cases t; rw [size]; rfl

end Tree

/-- A node as its parent shows it: under another name or not, in some fields, and with some fields
that it hands up to the parent. -/
structure Piece where
  tree : Tree
  shownAs : Option Alias := none
  fields : List String := []
  handedUp : List String := []
  deriving Inhabited

/-- The number of nodes of some pieces. -/
def sizeOfPieces : List Piece → Nat
  | [] => 0
  | p :: ps => p.tree.size + sizeOfPieces ps

/-- Whether a piece shows. -/
def Piece.shows (tables : Tables) (p : Piece) : Bool :=
  p.shownAs.isSome || tables.isVisible p.tree.symbol

/-- Whether anything of a piece shows. -/
def Piece.hasShown (tables : Tables) (p : Piece) : Bool :=
  p.shows tables || (!p.tree.children.isEmpty && p.tree.info.shownChildren > 0)

/-- A child as a piece, where `place` children that are no extras come before it. -/
def Piece.ofChild (shape : NodeShape) (place : Nat) (c : Tree) : Piece where
  tree := c
  shownAs := if c.extra || c.symbol == 0 then none else shape.aliases.getD place none
  fields := if c.extra then []
    else shape.fields.filterMap fun (f, i) => if i == place then some f else none
  handedUp := if c.extra then []
    else shape.handedUp.filterMap fun (f, i) => if i == place then some f else none

/-- The children of a node as pieces, where `place` children that are no extras come before them.
`given` are the fields of a node that does not show: they go to the first child of which anything
shows. -/
def childPieces (tables : Tables) (shape : NodeShape) : Nat → List String → List Tree → List Piece
  | _, _, [] => []
  | place, given, c :: cs =>
    let own := Piece.ofChild shape place c
    let next := if c.extra then place else place + 1
    if own.hasShown tables then
      { own with fields := given ++ own.fields } :: childPieces tables shape next [] cs
    else own :: childPieces tables shape next given cs

theorem sizeOfPieces_append : ∀ ps qs : List Piece,
    sizeOfPieces (ps ++ qs) = sizeOfPieces ps + sizeOfPieces qs
  | [], qs => by simp [sizeOfPieces]
  | p :: ps, qs => by
    simp only [List.cons_append, sizeOfPieces, sizeOfPieces_append ps qs]
    omega

theorem sizeOfPieces_childPieces (tables : Tables) (shape : NodeShape) :
    ∀ (place : Nat) (given : List String) (cs : List Tree),
      sizeOfPieces (childPieces tables shape place given cs) = Tree.sizeAll cs
  | _, _, [] => rfl
  | place, given, c :: cs => by
    simp only [childPieces]
    split <;> simp only [sizeOfPieces, sizeOfPieces_childPieces, Tree.sizeAll, Piece.ofChild]

/-- The children of a node as pieces; `given` are the fields that the node itself has if it does not
show. -/
def Tree.pieces (tables : Tables) (t : Tree) (given : List String) : List Piece :=
  childPieces tables (tables.shapes.getD t.info.shape default) 0 given t.children

theorem Tree.sizeOfPieces_pieces (tables : Tables) (t : Tree) (given : List String) :
    sizeOfPieces (t.pieces tables given) + 1 = t.size := by
  rw [pieces, sizeOfPieces_childPieces, Tree.size_eq]; omega

/-- The piece in the place of a node that does not show, which hands up only what the node does. -/
def Piece.within (p : Piece) (handedUp : List String) : Piece :=
  { p with handedUp := p.handedUp.filter handedUp.contains }

theorem sizeOfPieces_within (handedUp : List String) : ∀ ps : List Piece,
    sizeOfPieces (ps.map (Piece.within · handedUp)) = sizeOfPieces ps
  | [] => rfl
  | p :: ps => by
    rw [List.map_cons, sizeOfPieces, sizeOfPieces, sizeOfPieces_within handedUp ps]; rfl

/-- The children of a piece that does not show, as pieces. -/
def Piece.below (tables : Tables) (p : Piece) : List Piece :=
  (p.tree.pieces tables p.fields).map (Piece.within · p.handedUp)

theorem Piece.sizeOfPieces_below (tables : Tables) (p : Piece) :
    sizeOfPieces (p.below tables) + 1 = p.tree.size := by
  rw [below, sizeOfPieces_within, Tree.sizeOfPieces_pieces]

/-- The pieces that show, each with the place before it, last first. -/
def shownPieces (tables : Tables) :
    List Piece → Nat → List (Piece × Nat) → List (Piece × Nat)
  | [], _, done => done
  | p :: ps, i, done =>
    if p.shows tables then
      shownPieces tables ps (i + p.tree.total.chars) ((p, i) :: done)
    else if p.tree.children.isEmpty then shownPieces tables ps (i + p.tree.total.chars) done
    else
      have := p.sizeOfPieces_below tables
      shownPieces tables (p.below tables ++ ps) i done
termination_by ps => sizeOfPieces ps
decreasing_by
  · have := p.tree.size_eq; simp only [sizeOfPieces]; omega
  · have := p.tree.size_eq; simp only [sizeOfPieces]; omega
  · simp only [sizeOfPieces, sizeOfPieces_append]; omega

/-- The pieces directly below one that shows. -/
def Piece.shownBelow (tables : Tables) (p : Piece) (i : Nat) : List (Piece × Nat) :=
  (shownPieces tables (p.tree.pieces tables []) i []).reverse

/-- The place of a character. -/
def Source.point (src : Source) (i : Nat) : Point := ⟨i, src.rowOf i, src.columnOf i⟩

/-- What a piece says of itself, given the place before it. -/
def Piece.data (tables : Tables) (src : Source) (p : Piece) (i : Nat) : NodeData :=
  let info := p.tree.info
  { kind := match p.shownAs with
      | some a => a.name
      | none => tables.nameOf info.symbol
    named := match p.shownAs with
      | some a => a.named
      | none => tables.isNamed info.symbol
    extra := info.extra
    missing := info.missing
    unexpected := info.symbol == tables.error
    hasError := p.tree.errorCost > 0
    fields := p.fields
    handedUp := p.handedUp
    start := src.point (i + info.padding.chars)
    stop := src.point (i + info.padding.chars + info.size.chars) }

/-- A piece as a concrete tree with at most so many levels below it. -/
def Piece.concrete (tables : Tables) (src : Source) : Nat → Piece → Nat → Concrete
  | 0, p, i => .node (p.data tables src i) []
  | levels + 1, p, i =>
    .node (p.data tables src i)
      ((p.shownBelow tables i).map fun (q, j) => q.concrete tables src levels j)

/-- The concrete tree of a text, with at most so many levels below its root. -/
def Concrete.ofTree (tables : Tables) (src : Source) (levels : Nat) (t : Tree) : Concrete :=
  Piece.concrete tables src levels { tree := t } 0

end TestLocator.Parsing
