import TestLocator.Script.Parsers
import TestLocator.Syntax.Fault
import TestLocator.Syntax.Lower

/-!
# Syntax trees

* `SyntaxTree` — the statements of a script;
* `maxNesting` — how deep a concrete tree may be;
* `SyntaxTree.ofConcrete`, **`SyntaxTree.ofText`** — the syntax tree of a concrete tree and of a text.
-/

namespace TestLocator.Syntax

open TestLocator.Parsing

/-- The statements of a script in the order of the text. -/
structure SyntaxTree where
  language : Language
  statements : List Node
  deriving Inhabited

/-- A concrete tree has at most so many levels below its root. -/
def maxNesting : Nat := 2048

namespace SyntaxTree

/-- The syntax tree of a concrete tree, which must not be too deep nor have errors. -/
def ofConcrete (language : Language) (src : Source) (root : Concrete) : Except Fault SyntaxTree :=
  match Cursor.firstDeeperThan maxNesting (.ofRoot root) 0 with
  | some n => .error (.atNode (.nesting maxNesting) n)
  | none =>
    if root.data.hasError then .error ((firstFault src root).getD ⟨.unknown, 1, 1⟩)
    else .ok ⟨language, lowerAll src root.parts⟩

/-- The syntax tree of a text. One level more than allowed is enough to see that a tree is too
deep. -/
def ofText (language : Language) (text : String) : Except Fault SyntaxTree :=
  let src := Source.ofString text
  match Script.concreteTree language src (maxNesting + 1) with
  | some root => ofConcrete language src root
  | none => .error ⟨.unknown, 1, 1⟩

/-- The nodes with their levels, each before its children. -/
def preorder (t : SyntaxTree) : List (Nat × Node) := Node.preorderAll 0 t.statements

end SyntaxTree

end TestLocator.Syntax
