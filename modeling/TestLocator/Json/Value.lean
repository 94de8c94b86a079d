import TestLocator.Json.Double

/-!
# Values

* `Number`, `Value` — the values of the JSON format;
* `Value.memberIn?`, `Value.natural?`, `Value.isTruthy`.
-/

namespace TestLocator.Json

/-- A number. What is written as an integer and fits into 64 bits is one; all else is a double. -/
inductive Number where
  | natural (n : Nat)
  /-- The number `-n`. -/
  | negative (n : Nat)
  | double (isNegative : Bool) (size : Double)
  deriving DecidableEq, Repr, Inhabited

/-- A value. The members of an object keep the order of the text. -/
inductive Value where
  | null
  | boolean (b : Bool)
  | number (n : Number)
  | string (s : String)
  | array (items : List Value)
  | object (members : List (String × Value))
  deriving Repr, Inhabited

namespace Value

/-- The value of a member; the last one counts if there are several of a name. -/
def memberIn? (key : String) (members : List (String × Value)) : Option Value :=
  (members.reverse.find? fun m => m.1 == key).map (·.2)

/-- The value as a natural number. -/
def natural? : Value → Option Nat
  | number (.natural n) => some n
  | _ => none

/-- Whether a value stands for something: not for nothing, falsehood, zero or emptiness. -/
def isTruthy : Value → Bool
  | null => false
  | boolean b => b
  | number (.natural n) => n != 0
  | number (.negative n) => n != 0
  | number (.double _ d) => !d.isZero
  | string s => !s.isEmpty
  | array items => !items.isEmpty
  | object members => !members.isEmpty

end Value

end TestLocator.Json
