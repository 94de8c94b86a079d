/-!
# Paths

A path is a text with slashes. Two texts may name the same place: what counts are the components.

* `Path`, `Component`, `Path.components`;
* `Path.same`, `Path.startsWith` — comparison by components;
* `Path.join`, `Path.parent?`, `Path.ancestors`, `Path.extension?`.
-/

namespace TestLocator.Files

/-- A path as it is written. -/
structure Path where
  text : String
  deriving DecidableEq, Repr, Inhabited

/-- A step of a path. -/
inductive Component where
  | root
  | current
  | parent
  | normal (name : List Char)
  deriving DecidableEq, Repr

namespace Path

/-- The pieces between the slashes. `current` is the piece that has been started, last first. -/
def piecesOnto (current : List Char) : List Char → List (List Char)
  | [] => [current.reverse]
  | '/' :: cs => current.reverse :: piecesOnto [] cs
  | c :: cs => piecesOnto (c :: current) cs

/-- The pieces between the slashes. -/
def pieces (cs : List Char) : List (List Char) := piecesOnto [] cs

/-- The step that a piece is: an empty piece and a point are none. -/
def componentOf? (piece : List Char) : Option Component :=
  if piece = [] ∨ piece = ['.'] then none
  else if piece = ['.', '.'] then some .parent
  else some (.normal piece)

/-- How a path starts, and what follows: a slash starts at the root, and a point alone in front of
the first slash stays where it is. -/
def splitLead : List Char → List Char × List Char
  | '/' :: cs => (['/'], cs)
  | ['.'] => (['.'], [])
  | '.' :: '/' :: cs => (['.'], '/' :: cs)
  | cs => ([], cs)

/-- The steps of a path. -/
def components (p : Path) : List Component :=
  let (lead, body) := splitLead p.text.toList
  let first := match lead with
    | ['/'] => [Component.root]
    | ['.'] => [Component.current]
    | _ => []
  first ++ (pieces body).filterMap componentOf?

/-- Whether two paths have the same steps. -/
def same (p q : Path) : Bool := p.components = q.components

/-- Whether the steps of a path start with those of another. -/
def startsWith (p q : Path) : Bool := q.components.isPrefixOf p.components

/-- Whether a path starts at the root. -/
def isAbsolute (p : Path) : Bool := p.text.toList.head? = some '/'

/-- A path below another one. A path from the root stands for itself; else a slash is put between
the two unless the first is empty or ends in one. -/
def join (p : Path) (q : String) : Path :=
  if q.toList.head? = some '/' then ⟨q⟩
  else if p.text.toList = [] ∨ p.text.toList.getLast? = some '/' then ⟨p.text ++ q⟩
  else ⟨p.text ++ "/" ++ q⟩

/-! ## Parents -/

/-- The last piece of a body and what is before the slash in front of it, both last first. -/
def lastPiece : List Char → List Char × List Char
  | [] => ([], [])
  | '/' :: cs => ([], cs)
  | c :: cs => let (piece, rest) := lastPiece cs; (c :: piece, rest)

theorem length_lastPiece (cs : List Char) : (lastPiece cs).2.length ≤ cs.length - 1 := by
  fun_induction lastPiece cs with
  | case1 => simp
  | case2 => simp
  | case3 c cs _ piece rest heq ih =>
    simp only [heq] at ih
    simp only [List.length_cons]
    omega

/-- A body, last first, without the pieces at its end that are no steps. -/
def dropIdle (body : List Char) : List Char :=
  if h : body = [] then []
  else if (componentOf? (lastPiece body).1.reverse).isSome then body
  else dropIdle (lastPiece body).2
termination_by body.length
decreasing_by
  have := length_lastPiece body
  have := List.length_pos_iff.mpr h
  omega

/-- The path without its last step, if it has one beside the root. -/
def parent? (p : Path) : Option Path :=
  let (lead, body) := splitLead p.text.toList
  match dropIdle body.reverse with
  | [] => if lead = ['.'] then some ⟨""⟩ else none
  | c :: cs => some ⟨String.ofList (lead ++ (dropIdle (lastPiece (c :: cs)).2).reverse)⟩

/-- A path and the paths above it, at most `n` in all. -/
def ancestors : Nat → Path → List Path
  | 0, _ => []
  | n + 1, p => p :: match p.parent? with
    | some q => ancestors n q
    | none => []

/-! ## Extensions -/

/-- The last step, if it is a name. -/
def fileName? (p : Path) : Option (List Char) :=
  match p.components.getLast? with
  | some (.normal name) => some name
  | _ => none

/-- What follows the last point of a name, unless the name starts with it. -/
def extension? (p : Path) : Option String :=
  p.fileName?.bind fun name =>
    let after := name.reverse.takeWhile (· != '.')
    if after.length + 1 < name.length then some (String.ofList after.reverse) else none

end Path

end TestLocator.Files
