import TestLocator.Syntax.Span

/-!
# Syntax nodes

Of a script only a few shapes matter for finding tests: calls, members, names, bindings and
functions. Every other node keeps its kind and its children.

* `FunctionForm`, `Node` — nodes;
* `Node.children`, `Node.preorder`;
* `Node.identifierName`, `Node.memberPath`.
-/

namespace TestLocator.Syntax

/-- How a function value is written. -/
inductive FunctionForm where
  /-- With the word `function`. -/
  | expression
  /-- With an arrow. -/
  | arrow
  deriving DecidableEq, Repr, Inhabited

/-- A piece of a script. -/
inductive Node where
  /-- `callee(arguments)`, or a tagged template. -/
  | call (span : LineSpan) (callee : Node) (arguments : List Node)
  /-- `object.property`. -/
  | member (span : LineSpan) (object : Node) (property : Option String)
  | identifier (span : LineSpan) (name : String)
  /-- `binding = init` in a declaration. -/
  | declarator (span : LineSpan) (binding : Node) (init : Option Node)
  | function (span : LineSpan) (form : FunctionForm) (children : List Node)
  | other (span : LineSpan) (kind : String) (children : List Node)
  deriving Inhabited, Repr

namespace Node

/-- The lines of a node. -/
def span : Node → LineSpan
  | call s _ _ | member s _ _ | identifier s _ | declarator s _ _ | function s _ _ | other s _ _ => s

/-- The children in the order of the text. -/
def children : Node → List Node
  | call _ callee arguments => callee :: arguments
  | member _ object _ => [object]
  | identifier _ _ => []
  | declarator _ binding init => binding :: init.toList
  | function _ _ cs => cs
  | other _ _ cs => cs

/-- The name of a node that is a name. -/
def identifierName : Node → Option String
  | identifier _ name => some name
  | _ => none

/-- The two names of a member of a plain name. -/
def memberPath : Node → Option (String × String)
  | member _ object property => do
    let o ← object.identifierName
    let p ← property
    return (o, p)
  | _ => none

/-! ## Sizes -/

mutual

/-- The number of nodes. -/
def size : Node → Nat
  | call _ callee arguments => 1 + callee.size + sizeAll arguments
  | member _ object _ => 1 + object.size
  | identifier _ _ => 1
  | declarator _ binding init => 1 + binding.size + sizeOption init
  | function _ _ cs => 1 + sizeAll cs
  | other _ _ cs => 1 + sizeAll cs

/-- The number of nodes of a node that may be absent. -/
def sizeOption : Option Node → Nat
  | none => 0
  | some n => n.size

/-- The number of nodes of some nodes. -/
def sizeAll : List Node → Nat
  | [] => 0
  | n :: ns => n.size + sizeAll ns

end

theorem size_eq (n : Node) : n.size = 1 + sizeAll n.children := by
  cases n with
  | declarator _ _ init =>
    cases init <;> simp [size, sizeOption, children, sizeAll, Nat.add_assoc]
  | _ => simp [size, children, sizeAll, Nat.add_assoc]

theorem size_pos (n : Node) : 0 < n.size := by rw [size_eq]; omega

theorem size_le_sizeAll_of_mem {n : Node} : ∀ {ns : List Node}, n ∈ ns → n.size ≤ sizeAll ns
  | m :: ms, h => by
    rw [sizeAll]
    rcases List.mem_cons.1 h with rfl | h
    · omega
    · have := size_le_sizeAll_of_mem h
      omega

theorem size_lt_of_mem_children {c n : Node} (h : c ∈ n.children) : c.size < n.size := by
  have := size_le_sizeAll_of_mem h
  rw [size_eq n]; omega

/-! ## Order -/

mutual

/-- The node and all below it, each before its children, with their levels. -/
def preorder (depth : Nat) (n : Node) : List (Nat × Node) :=
  (depth, n) :: preorderAll (depth + 1) n.children
termination_by 2 * n.size
decreasing_by rw [size_eq n]; omega

/-- The nodes of some trees, one tree after the other. -/
def preorderAll (depth : Nat) (ns : List Node) : List (Nat × Node) :=
  match ns with
  | [] => []
  | c :: cs => c.preorder depth ++ preorderAll depth cs
termination_by 2 * sizeAll ns + 1
decreasing_by
  · rw [sizeAll]; omega
  · have := c.size_pos; rw [sizeAll]; omega

end

end Node

end TestLocator.Syntax
