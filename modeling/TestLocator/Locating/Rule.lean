import TestLocator.Syntax.Node

/-!
# Rules

Which nodes declare a test.

* `Rule` — the ways to declare a test;
* **`recognize`** — the rule that a node satisfies.
-/

namespace TestLocator.Locating

open TestLocator.Syntax

/-- The ways to declare a test. -/
inductive Rule where
  /-- A call of a function that opens a test or a hook. -/
  | testCall
  /-- A call of `describe.only` or `describe.skip`. -/
  | describeModifier
  /-- A name bound to a function. -/
  | functionBinding
  /-- A name bound to a call of `jest.spyOn`. -/
  | spyBinding
  deriving DecidableEq, Repr, Inhabited

/-- The functions that open a test or a hook. -/
def testCallees : List String :=
  ["it", "test", "beforeEach", "afterEach", "xit", "xdescribe", "fdescribe"]

/-- The members of `describe` that change how a suite runs. -/
def describeModifiers : List String := ["only", "skip"]

/-- The rule that a call of something satisfies. -/
def recognizeCallee (callee : Node) : Option Rule :=
  match callee.identifierName with
  | some name => if testCallees.contains name then some .testCall else none
  | none =>
    match callee.memberPath with
    | some ("describe", property) =>
      if describeModifiers.contains property then some .describeModifier else none
    | _ => none

/-- The rule that a binding of a value satisfies. -/
def recognizeInit : Node → Option Rule
  | .function .. => some .functionBinding
  | .call _ callee _ => if callee.memberPath = some ("jest", "spyOn") then some .spyBinding else none
  | _ => none

/-- The rule that a node satisfies. -/
def recognize : Node → Option Rule
  | .call _ callee _ => recognizeCallee callee
  | .declarator _ _ (some init) => recognizeInit init
  | _ => none

end TestLocator.Locating
