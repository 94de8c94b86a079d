import TestLocator.Locating.Document
import TestLocator.Locating.Failure
import TestLocator.Locating.Rule
import TestLocator.Syntax.Tree

/-!
# Searching for tests

The test that encloses a line is the first one in the order of the text: an outer test comes before
those inside it.

* `TestBlock`, `blockAt?` — the lines of a test;
* `findBelow`, `findAmong`, `findInTree` — the search in a node, in some nodes and in a tree;
* `parseDocument`, `findInDocument`;
* `loadDocument`, **`locate`** — the search in a file.
-/

namespace TestLocator.Locating

open TestLocator.Files TestLocator.Syntax

/-- The lines of a test. -/
structure TestBlock where
  text : String
  startLine : Nat
  endLine : Nat
  deriving DecidableEq, Repr, Inhabited

/-- The lines that a test takes. -/
def TestBlock.span (b : TestBlock) : LineSpan := ⟨b.startLine, b.endLine⟩

/-- How the lines of a test are told. -/
def TestBlock.rangeLabel (b : TestBlock) : String := s!"start: {b.startLine} end: {b.endLine}"

/-- The lines of a document from one to another. -/
def blockAt? (d : Document) (first last : Nat) : Option TestBlock :=
  (d.slice? first last).map fun text => ⟨text, first, last⟩

/-- The test that a node itself is, if it encloses a line. -/
def ownBlock (d : Document) (line : Nat) (n : Node) : Option TestBlock :=
  if n.span.Contains line ∧ (recognize n).isSome then blockAt? d n.span.startLine n.span.endLine
  else none

mutual

/-- The first test in a node that encloses a line. The node itself comes before its children, which
are searched whether or not the node encloses the line. -/
def findBelow (d : Document) (line : Nat) (n : Node) : Option TestBlock :=
  match ownBlock d line n with
  | some b => some b
  | none => findAmong d line n.children
termination_by 2 * n.size
decreasing_by rw [n.size_eq]; omega

/-- The first test in some nodes that encloses a line. -/
def findAmong (d : Document) (line : Nat) (ns : List Node) : Option TestBlock :=
  match ns with
  | [] => none
  | c :: cs =>
    match findBelow d line c with
    | some b => some b
    | none => findAmong d line cs
termination_by 2 * Node.sizeAll ns + 1
decreasing_by
  · rw [Node.sizeAll]; omega
  · have := c.size_pos; rw [Node.sizeAll]; omega

end

/-- The first test in a tree that encloses a line. -/
def findInTree (t : SyntaxTree) (d : Document) (line : Nat) : Option TestBlock :=
  findAmong d line t.statements

/-- The tree of a document. Plain JavaScript that does not parse may still parse with types and
elements; if it does not, the fault of the plain reading is told. -/
def parseDocument (d : Document) : Except Failure SyntaxTree :=
  match SyntaxTree.ofText d.language d.text with
  | .ok t => .ok t
  | .error fault =>
    let failure := Failure.parse d.path fault.line fault.column fault.message
    if d.language = .javaScript then
      match SyntaxTree.ofText .tsx d.text with
      | .ok t => .ok t
      | .error _ => .error failure
    else .error failure

/-- The first test in a document that encloses a line. -/
def findInDocument (d : Document) (line : Nat) : Except Failure TestBlock :=
  match parseDocument d with
  | .error e => .error e
  | .ok t =>
    match findInTree t d line with
    | some b => .ok b
    | none => .error (.noMatch d.path line)

/-- The document in a file. -/
def loadDocument (files : FileView) (path : Path) (marker : String) : Except Failure Document :=
  if files.isThere path then
    match files.read path with
    | .ok text => .ok (.ofText path text marker)
    | .error cause => .error (.ofAccess path cause)
  else .error (.fileNotFound path)

/-- The wording for a line number that is none. -/
def lineZeroMessage : String := "target line must be a positive integer"

/-- The first test in a file that encloses a line. -/
def locate (files : FileView) (path : Path) (line : Nat) (marker : String) :
    Except Failure TestBlock :=
  if line = 0 then .error (.malformedInput lineZeroMessage)
  else
    match loadDocument files path marker with
    | .error e => .error e
    | .ok d => findInDocument d line

end TestLocator.Locating
