import TestLocator.Text.Bytes

/-!
# Faults of texts that are no value

* `Problem` — what is wrong;
* `Fault`, `Fault.message` — what is wrong and where;
* `placeOf` — the line and the column after some bytes.
-/

namespace TestLocator.Json

/-- What is wrong with a text. -/
inductive Problem where
  | endInArray
  | endInObject
  | endInString
  | endInValue
  | expectedColon
  | expectedArrayEnd
  | expectedObjectEnd
  | expectedWord
  | expectedValue
  | invalidEscape
  | invalidNumber
  | numberOutOfRange
  | controlCharacter
  | keyMustBeString
  | loneSurrogate
  | trailingComma
  | trailingCharacters
  | unexpectedEscapeEnd
  | nestingLimit
  deriving DecidableEq, Repr, Inhabited

/-- The wording of a problem. -/
def Problem.message : Problem → String
  | endInArray => "EOF while parsing a list"
  | endInObject => "EOF while parsing an object"
  | endInString => "EOF while parsing a string"
  | endInValue => "EOF while parsing a value"
  | expectedColon => "expected `:`"
  | expectedArrayEnd => "expected `,` or `]`"
  | expectedObjectEnd => "expected `,` or `\x7d`"
  | expectedWord => "expected ident"
  | expectedValue => "expected value"
  | invalidEscape => "invalid escape"
  | invalidNumber => "invalid number"
  | numberOutOfRange => "number out of range"
  | controlCharacter => "control character (\\u0000-\\u001F) found while parsing a string"
  | keyMustBeString => "key must be a string"
  | loneSurrogate => "lone leading surrogate in hex escape"
  | trailingComma => "trailing comma"
  | trailingCharacters => "trailing characters"
  | unexpectedEscapeEnd => "unexpected end of hex escape"
  | nestingLimit => "recursion limit exceeded"

/-- What is wrong and where: the line from `1`, and the bytes of the line up to the place. -/
structure Fault where
  problem : Problem
  line : Nat
  column : Nat
  deriving DecidableEq, Repr, Inhabited

/-- The wording of a fault. -/
def Fault.message (f : Fault) : String :=
  f.problem.message ++ s!" at line {f.line} column {f.column}"

/-- The line and the column after a number of bytes of a text. -/
def placeOf : List Char → Nat → Nat → Nat → Nat × Nat
  | _, 0, line, column => (line, column)
  | [], _, line, column => (line, column)
  | c :: cs, n + 1, line, column =>
    if c = '\n' then placeOf cs n (line + 1) 0
    else placeOf cs (n + 1 - c.utf8Size) line (column + min (n + 1) c.utf8Size)

end TestLocator.Json
