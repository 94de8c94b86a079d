import TestLocator.Parsing.Source

/-!
# Concrete trees

The tree of a text as a reader of the text sees it: every node has a kind, a place in the text, and
the fields under which its parent holds it.

* `Point`, `NodeData`, `Concrete` — trees;
* `Concrete.size`, `Concrete.preorder`, `Concrete.parts`;
* `Concrete.child?` — the node in a field, which may be one that a child hands up;
* `Cursor` — a place in a tree with the moves down, right and up;
* **`Concrete.firstDeeperThan`** — the first node below a number of levels, found by walking a
  cursor through the tree.
-/

namespace TestLocator.Parsing

/-- A place in a text: the characters before it, the lines before it, and the bytes before it in its
line. -/
structure Point where
  offset : Nat
  row : Nat
  column : Nat
  deriving DecidableEq, Repr, Inhabited

/-- What a node says of itself. -/
structure NodeData where
  kind : String
  named : Bool := true
  /-- The node may stand anywhere, as comments do. -/
  extra : Bool := false
  /-- The node is not in the text, which needs it. -/
  missing : Bool := false
  /-- The node holds text that fits nowhere. -/
  unexpected : Bool := false
  /-- The node, or one in it, is missing or unexpected. -/
  hasError : Bool := false
  /-- The fields under which the parent holds the node. -/
  fields : List String := []
  /-- The fields that the node hands up: what it holds under them the parent holds too. -/
  handedUp : List String := []
  start : Point
  stop : Point
  deriving Repr, Inhabited

/-- A node with its children in the order of the text. -/
inductive Concrete where
  | node (data : NodeData) (children : List Concrete)
  deriving Inhabited

namespace Concrete

/-- What the node says of itself. -/
def data : Concrete → NodeData
  | node d _ => d

/-- The children. -/
def children : Concrete → List Concrete
  | node _ cs => cs

/-- The kind of the node. -/
def kind (n : Concrete) : String := n.data.kind

/-- The text of a node. -/
def text (src : Source) (n : Concrete) : String := src.slice n.data.start.offset n.data.stop.offset

/-- The children that have a name and are no extras. -/
def parts (n : Concrete) : List Concrete := n.children.filter fun c => c.data.named && !c.data.extra

mutual

/-- The first node in a field. -/
def child? (field : String) : Concrete → Option Concrete
  | node _ cs => childAmong? field cs

/-- The first node in a field of the parent of some nodes: one of them, or one that they hand up. -/
def childAmong? (field : String) : List Concrete → Option Concrete
  | [] => none
  | c :: cs =>
    if c.data.fields.contains field then some c
    else if c.data.handedUp.contains field then
      match c.child? field with
      | some d => some d
      | none => childAmong? field cs
    else childAmong? field cs

end

/-! ## Sizes -/

mutual

/-- The number of nodes. -/
def size : Concrete → Nat
  | node _ cs => 1 + sizeAll cs

/-- The number of nodes of some trees. -/
def sizeAll : List Concrete → Nat
  | [] => 0
  | c :: cs => c.size + sizeAll cs

end

theorem size_eq (n : Concrete) : n.size = 1 + sizeAll n.children := by
  cases n; rw [size]; rfl

theorem size_pos (n : Concrete) : 0 < n.size := by rw [size_eq]; omega

theorem size_le_sizeAll_of_mem {c : Concrete} : ∀ {cs : List Concrete}, c ∈ cs → c.size ≤ sizeAll cs
  | d :: ds, h => by
    rw [sizeAll]
    rcases List.mem_cons.1 h with rfl | h
    · omega
    · have := size_le_sizeAll_of_mem h
      omega

theorem size_lt_of_mem_children {c n : Concrete} (h : c ∈ n.children) : c.size < n.size := by
  have := size_le_sizeAll_of_mem h
  rw [size_eq n]; omega

theorem sizeAll_filter_le (p : Concrete → Bool) : ∀ cs : List Concrete,
    sizeAll (cs.filter p) ≤ sizeAll cs
  | [] => by simp
  | c :: cs => by
    have := sizeAll_filter_le p cs
    rw [List.filter_cons]
    split <;> simp only [sizeAll] <;> omega

theorem sizeAll_parts_lt (n : Concrete) : sizeAll n.parts < n.size := by
  have := sizeAll_filter_le (fun c => c.data.named && !c.data.extra) n.children
  rw [size_eq n, parts]; omega

theorem mem_children_of_mem_parts {c n : Concrete} (h : c ∈ n.parts) : c ∈ n.children :=
  (List.mem_filter.1 h).1

mutual

theorem size_lt_of_child? {c : Concrete} {field : String} :
    ∀ {n : Concrete}, n.child? field = some c → c.size < n.size
  | node d cs, h => by
    rw [child?] at h
    have := size_le_of_childAmong? h
    rw [size]; omega

theorem size_le_of_childAmong? {c : Concrete} {field : String} :
    ∀ {cs : List Concrete}, childAmong? field cs = some c → c.size ≤ sizeAll cs
  | [], h => by simp [childAmong?] at h
  | d :: ds, h => by
    rw [childAmong?] at h
    rw [sizeAll]
    split at h
    · cases h; omega
    · split at h
      · split at h
        · rename_i e he
          cases h
          have := size_lt_of_child? he
          omega
        · have := size_le_of_childAmong? h
          omega
      · have := size_le_of_childAmong? h
        omega

end

/-! ## Order -/

mutual

/-- The node and all below it, each before its children, with their levels. -/
def preorder (depth : Nat) : Concrete → List (Nat × Concrete)
  | node d cs => (depth, node d cs) :: preorderAll (depth + 1) cs

/-- The nodes of some trees, one tree after the other. -/
def preorderAll (depth : Nat) : List Concrete → List (Nat × Concrete)
  | [] => []
  | c :: cs => c.preorder depth ++ preorderAll depth cs

end

end Concrete

/-! ## Cursors -/

/-- A place in a tree: the node there, the siblings after it, and for each node above it the
siblings after that one, the nearest first. -/
structure Cursor where
  node : Concrete
  later : List Concrete := []
  above : List (Concrete × List Concrete) := []

namespace Cursor

/-- The cursor at the root of a tree. -/
def ofRoot (n : Concrete) : Cursor := { node := n }

/-- The number of nodes above the cursor. -/
def depth (c : Cursor) : Nat := c.above.length

/-- Move to the first child. -/
def firstChild? (c : Cursor) : Option Cursor :=
  match c.node.children with
  | [] => none
  | d :: ds => some ⟨d, ds, (c.node, c.later) :: c.above⟩

/-- Move to the next sibling. -/
def nextSibling? (c : Cursor) : Option Cursor :=
  match c.later with
  | [] => none
  | d :: ds => some ⟨d, ds, c.above⟩

/-- Move to the parent. -/
def parent? (c : Cursor) : Option Cursor :=
  match c.above with
  | [] => none
  | (p, ps) :: rest => some ⟨p, ps, rest⟩

/-- The number of nodes that come later than those above a cursor. -/
def sizeAbove : List (Concrete × List Concrete) → Nat
  | [] => 0
  | p :: above => Concrete.sizeAll p.2 + sizeAbove above

/-- The nodes that a walk has still before it: those below the cursor, and the later siblings of the
cursor and of all above it. -/
def remaining (c : Cursor) : Nat :=
  c.node.size + Concrete.sizeAll c.later + sizeAbove c.above

theorem remaining_firstChild? {c d : Cursor} (h : c.firstChild? = some d) :
    d.remaining < c.remaining := by
  unfold firstChild? at h
  split at h
  · cases h
  · rename_i x xs hx
    cases h
    simp only [remaining, sizeAbove, c.node.size_eq, hx, Concrete.sizeAll]
    omega

/-- Climb until there is a next sibling and move there, counting the levels down. -/
def climb (node : Concrete) (later : List Concrete) (above : List (Concrete × List Concrete))
    (depth : Nat) : Option (Cursor × Nat) :=
  match nextSibling? ⟨node, later, above⟩ with
  | some c => some (c, depth)
  | none =>
    match above with
    | [] => none
    | (p, ps) :: rest => climb p ps rest (depth - 1)

theorem remaining_climb {node : Concrete} {later : List Concrete}
    {above : List (Concrete × List Concrete)} {depth : Nat} {r : Cursor × Nat}
    (h : climb node later above depth = some r) :
    r.1.remaining = Concrete.sizeAll later + sizeAbove above := by
  induction above generalizing node later depth with
  | nil =>
    cases later with
    | nil => simp [climb, nextSibling?] at h
    | cons x xs =>
      cases h
      simp [remaining, Concrete.sizeAll]
  | cons a rest ih =>
    cases later with
    | nil =>
      change climb a.1 a.2 rest (depth - 1) = some r at h
      rw [ih h]
      simp [Concrete.sizeAll, sizeAbove]
    | cons x xs =>
      cases h
      simp [remaining, Concrete.sizeAll]

theorem remaining_climb_lt {c : Cursor} {depth : Nat} {r : Cursor × Nat}
    (h : climb c.node c.later c.above depth = some r) : r.1.remaining < c.remaining := by
  have := c.node.size_pos
  rw [remaining_climb h, remaining]
  omega

/-- Walk through the tree from a cursor at some level to the first node that is below a number of
levels. -/
def firstDeeperThan (limit : Nat) (c : Cursor) (depth : Nat) : Option Concrete :=
  if depth > limit then some c.node
  else
    match h : c.firstChild? with
    | some d =>
      have := remaining_firstChild? h
      firstDeeperThan limit d (depth + 1)
    | none =>
      match h : climb c.node c.later c.above depth with
      | some (d, k) =>
        have := remaining_climb_lt h
        firstDeeperThan limit d k
      | none => none
termination_by c.remaining

end Cursor

end TestLocator.Parsing
