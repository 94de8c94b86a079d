import TestLocator.Parsing.Concrete
import TestLocator.Syntax.Node

/-!
# From concrete trees to syntax nodes

* `isWrapper`, `unwrap` — an initial value without parentheses and type assertions;
* **`lower`**, `lowerAll` — the syntax node of a concrete node, and of several.
-/

namespace TestLocator.Syntax

open TestLocator.Parsing

/-- Whether nodes of a kind only wrap the expression in them. -/
def isWrapper (kind : String) : Bool :=
  ["parenthesized_expression", "as_expression", "satisfies_expression",
    "non_null_expression"].contains kind

/-- Strip what only wraps an expression. The wrapped expression comes first in the wrapper. -/
def unwrap (n : Concrete) : Concrete :=
  if isWrapper n.kind then
    match h : n.parts with
    | [] => n
    | inner :: _ =>
      have : inner.size < n.size :=
        Concrete.size_lt_of_mem_children (Concrete.mem_children_of_mem_parts (h ▸ List.mem_cons_self))
      unwrap inner
  else n
termination_by n.size

theorem size_unwrap_le (n : Concrete) : (unwrap n).size ≤ n.size := by
  fun_induction unwrap n <;> omega

/-- The lines of a concrete node. -/
def spanOf (n : Concrete) : LineSpan :=
  let start := n.data.start.row + 1
  ⟨start, max (n.data.stop.row + 1) start⟩

mutual

/-- The syntax node of a concrete node. A node that lacks a field which its shape needs is an other
node. -/
def lower (src : Source) (n : Concrete) : Node :=
  let span := spanOf n
  match n.kind with
  | "call_expression" =>
    match h : n.child? "function" with
    | none => .other span n.kind (lowerAll src n.parts)
    | some callee =>
      have := Concrete.size_lt_of_child? h
      match h : n.child? "arguments" with
      | none => .call span (lower src callee) []
      | some arguments =>
        have := Concrete.size_lt_of_child? h
        have := Concrete.sizeAll_parts_lt arguments
        if arguments.kind == "arguments" then
          .call span (lower src callee) (lowerAll src arguments.parts)
        else .call span (lower src callee) [lower src arguments]
  | "member_expression" =>
    match h : n.child? "object" with
    | none => .other span n.kind (lowerAll src n.parts)
    | some object =>
      have := Concrete.size_lt_of_child? h
      .member span (lower src object) ((n.child? "property").map (·.text src))
  | "identifier" => .identifier span (n.text src)
  | "variable_declarator" =>
    match h : n.child? "name" with
    | none => .other span n.kind (lowerAll src n.parts)
    | some name =>
      have := Concrete.size_lt_of_child? h
      match h : n.child? "value" with
      | none => .declarator span (lower src name) none
      | some value =>
        have := Concrete.size_lt_of_child? h
        have := size_unwrap_le value
        .declarator span (lower src name) (some (lower src (unwrap value)))
  | "function_expression" | "function" | "generator_function" =>
    .function span .expression (lowerAll src n.parts)
  | "arrow_function" => .function span .arrow (lowerAll src n.parts)
  | kind => .other span kind (lowerAll src n.parts)
termination_by 2 * n.size
decreasing_by
  all_goals
    have h := Concrete.sizeAll_parts_lt n
    omega

/-- The syntax nodes of some concrete nodes. -/
def lowerAll (src : Source) (cs : List Concrete) : List Node :=
  match cs with
  | [] => []
  | c :: cs => lower src c :: lowerAll src cs
termination_by 2 * Concrete.sizeAll cs + 1
decreasing_by
  · rw [Concrete.sizeAll]; omega
  · have := c.size_pos; rw [Concrete.sizeAll]; omega

end

end TestLocator.Syntax
