import TestLocator.Json.Fault
import TestLocator.Json.Value

/-!
# Reading values

* `Stop` — why reading ends early, and how much of the text is left then;
* `readString`, `readNumber`, `readValue`;
* **`Value.ofText`** — the value that a text is.
-/

namespace TestLocator.Json

open TestLocator.Text

/-- Why reading ends early: the problem and the bytes that are left. -/
structure Stop where
  problem : Problem
  left : Nat
  deriving DecidableEq, Repr, Inhabited

/-- A value and what follows it. -/
abbrev Reading (α : Type) := Except Stop (α × List Char)

/-- A problem at the place that has been reached. -/
def stopHere (p : Problem) (rest : List Char) : Stop := ⟨p, byteLength rest⟩

/-- A problem with the byte that comes next. -/
def stopAfter (p : Problem) (rest : List Char) : Stop := ⟨p, byteLength rest - 1⟩

/-- The blanks of the format. -/
def isGap (c : Char) : Bool := c = ' ' ∨ c = '\n' ∨ c = '\t' ∨ c = '\r'

/-- What follows the blanks. -/
def skipGaps (cs : List Char) : List Char := cs.dropWhile isGap

/-! ## Strings -/

/-- The value of a digit of base sixteen. -/
def hexValue? (c : Char) : Option Nat :=
  if '0' ≤ c ∧ c ≤ '9' then some (c.toNat - 48)
  else if 'a' ≤ c ∧ c ≤ 'f' then some (c.toNat - 87)
  else if 'A' ≤ c ∧ c ≤ 'F' then some (c.toNat - 55)
  else none

/-- The unit that four digits tell. -/
def readUnit (cs : List Char) : Except Stop Nat :=
  if byteLength (cs.take 4) < 4 then .error ⟨.endInString, 0⟩
  else
    match (cs.take 4).mapM hexValue? with
    | some [a, b, c, d] => .ok (((a * 16 + b) * 16 + c) * 16 + d)
    | _ => .error ⟨.invalidEscape, byteLength cs - 4⟩

/-- Whether a unit is the first half of a pair. -/
def isHighSurrogate (n : Nat) : Bool := 0xD800 ≤ n ∧ n ≤ 0xDBFF

/-- Whether a unit is the second half of a pair. -/
def isLowSurrogate (n : Nat) : Bool := 0xDC00 ≤ n ∧ n ≤ 0xDFFF

/-- The second half of a pair, after the first. -/
def readLowSurrogate (cs : List Char) : Except Stop Nat :=
  match cs with
  | [] => .error (stopHere .endInString cs)
  | '\\' :: rest =>
    match rest with
    | [] => .error (stopHere .endInString rest)
    | 'u' :: digits =>
      match readUnit digits with
      | .error e => .error e
      | .ok n =>
        if isLowSurrogate n then .ok n else .error (stopHere .loneSurrogate (digits.drop 4))
    | _ => .error (stopAfter .unexpectedEscapeEnd rest)
  | _ => .error (stopAfter .unexpectedEscapeEnd cs)

/-- The character that an escape by number stands for, and how many characters it takes. -/
def readCodeEscape (cs : List Char) : Except Stop (Char × Nat) :=
  match readUnit cs with
  | .error e => .error e
  | .ok n =>
    if isLowSurrogate n then .error (stopHere .loneSurrogate (cs.drop 4))
    else if isHighSurrogate n then
      match readLowSurrogate (cs.drop 4) with
      | .error e => .error e
      | .ok m => .ok (Char.ofNat ((n - 0xD800) * 0x400 + (m - 0xDC00) + 0x10000), 10)
    else .ok (Char.ofNat n, 4)

/-- The character that an escape stands for, and how many characters it takes after the
backslash. -/
def readEscape : List Char → Except Stop (Char × Nat)
  | [] => .error (stopHere .endInString [])
  | 'u' :: rest => (readCodeEscape rest).map fun (c, n) => (c, n + 1)
  | c :: rest =>
    match c with
    | '"' => .ok ('"', 1)
    | '\\' => .ok ('\\', 1)
    | '/' => .ok ('/', 1)
    | 'b' => .ok ('\x08', 1)
    | 'f' => .ok ('\x0c', 1)
    | 'n' => .ok ('\n', 1)
    | 'r' => .ok ('\r', 1)
    | 't' => .ok ('\t', 1)
    | _ => .error (stopAfter .invalidEscape (c :: rest))

/-- The characters of a string up to the closing quote. `done` are those read before, last first. -/
def readString (done : List Char) (cs : List Char) : Reading (List Char) :=
  match cs with
  | [] => .error (stopHere .endInString [])
  | '"' :: rest => .ok (done.reverse, rest)
  | '\\' :: rest =>
    match readEscape rest with
    | .error e => .error e
    | .ok (c, n) => readString (c :: done) (rest.drop n)
  | c :: rest =>
    if c < ' ' then .error (stopHere .controlCharacter rest) else readString (c :: done) rest
termination_by cs.length

/-! ## Numbers -/

/-- A digit. -/
def isDigit (c : Char) : Bool := '0' ≤ c ∧ c ≤ '9'

/-- Whether a digit comes next. -/
def startsWithDigit (cs : List Char) : Bool := (cs.head?.map isDigit).getD false

/-- Take digits while the number fits into 64 bits: the number, how many digits have been taken, and
what follows. -/
def takeDigits (number count : Nat) : List Char → Nat × Nat × List Char
  | [] => (number, count, [])
  | c :: cs =>
    let next := number * 10 + (c.toNat - 48)
    if isDigit c ∧ next < Nat.pow 2 64 then takeDigits next (count + 1) cs else (number, count, c :: cs)

/-- A number of a significand and a power of ten. -/
def scaled (positive : Bool) (significand : Nat) (exponent : Int) (rest : List Char) :
    Reading Number :=
  match Double.ofDecimal? significand exponent with
  | some d => .ok (.double (!positive) d, rest)
  | none => .error (stopHere .numberOutOfRange rest)

/-- The largest exponent that is told from larger ones. -/
def maxExponent : Nat := 2147483647

/-- The digits of an exponent. -/
def readExponentDigits (positive positiveExponent : Bool) (significand : Nat) (start : Int) :
    Nat → List Char → Reading Number
  | e, [] => scaled positive significand (if positiveExponent then start + e else start - e) []
  | e, c :: cs =>
    if isDigit c then
      let next := e * 10 + (c.toNat - 48)
      if maxExponent < next then
        if significand ≠ 0 ∧ positiveExponent then .error (stopHere .numberOutOfRange cs)
        else .ok (.double (!positive) .zero, cs.dropWhile isDigit)
      else readExponentDigits positive positiveExponent significand start next cs
    else scaled positive significand (if positiveExponent then start + e else start - e) (c :: cs)

/-- What follows the letter of an exponent. -/
def readExponent (positive : Bool) (significand : Nat) (start : Int) (cs : List Char) :
    Reading Number :=
  let (positiveExponent, digits) := match cs with
    | '+' :: rest => (true, rest)
    | '-' :: rest => (false, rest)
    | _ => (true, cs)
  match digits with
  | [] => .error (stopHere .endInValue [])
  | c :: rest =>
    if isDigit c then
      readExponentDigits positive positiveExponent significand start (c.toNat - 48) rest
    else .error (stopAfter .invalidNumber digits)

/-- What may follow the digits of a number that is no integer. -/
def readScale (positive : Bool) (significand : Nat) (exponent : Int) (cs : List Char) :
    Reading Number :=
  match cs with
  | 'e' :: rest | 'E' :: rest => readExponent positive significand exponent rest
  | _ => scaled positive significand exponent cs

/-- What follows the point. Digits that no longer fit are passed over. -/
def readFraction (positive : Bool) (significand : Nat) (start : Int) (cs : List Char) :
    Reading Number :=
  let (number, count, rest) := takeDigits significand 0 cs
  if startsWithDigit rest then
    readScale positive number (start - count) (rest.dropWhile isDigit)
  else if count = 0 then
    .error (stopAfter (if rest.isEmpty then .endInValue else .invalidNumber) rest)
  else readScale positive number (start - count) rest

/-- An integer; one that does not fit into 64 bits is a double, and so is negative zero. -/
def integer (positive : Bool) (n : Nat) : Number :=
  if positive then .natural n
  else if 1 ≤ n ∧ n ≤ Nat.pow 2 63 then .negative n
  else .double true ((Double.ofQuotient? n 1).getD .zero)

/-- What follows the digits of a number that fits into 64 bits. -/
def readTail (positive : Bool) (n : Nat) (cs : List Char) : Reading Number :=
  match cs with
  | '.' :: rest => readFraction positive n 0 rest
  | 'e' :: rest | 'E' :: rest => readExponent positive n 0 rest
  | _ => .ok (integer positive n, cs)

/-- What follows the digits of a number that fit into 64 bits, where more digits come. -/
def readLongTail (positive : Bool) (n : Nat) (cs : List Char) : Reading Number :=
  let more := cs.takeWhile isDigit
  let rest := cs.dropWhile isDigit
  match rest with
  | '.' :: fraction => readFraction positive n more.length fraction
  | _ => readScale positive n more.length rest

/-- A number after its sign. -/
def readNumber (positive : Bool) (cs : List Char) : Reading Number :=
  match cs with
  | [] => .error (stopHere .endInValue [])
  | '0' :: rest =>
    if startsWithDigit rest then .error (stopAfter .invalidNumber rest) else readTail positive 0 rest
  | c :: rest =>
    if isDigit c then
      let (n, _, rest) := takeDigits (c.toNat - 48) 0 rest
      if startsWithDigit rest then readLongTail positive n rest else readTail positive n rest
    else .error (stopAfter .invalidNumber (c :: rest))

/-! ## Values -/

/-- The rest of a word that stands for a value. -/
def readWord (v : Value) : List Char → List Char → Reading Value
  | [], cs => .ok (v, cs)
  | _ :: _, [] => .error (stopHere .endInValue [])
  | w :: ws, c :: cs =>
    if c = w then readWord v ws cs else .error (stopAfter .expectedWord (c :: cs))

/-- Values may be nested below this level. -/
def nestingLimit : Nat := 128

/-- The colon after the name of a member. -/
def readColon (cs : List Char) : Except Stop (List Char) :=
  match skipGaps cs with
  | ':' :: rest => .ok rest
  | [] => .error (stopAfter .endInObject [])
  | rest => .error (stopAfter .expectedColon rest)

mutual

/-- A value, where `levels` more may be opened, in `fuel` steps. -/
def readValue : Nat → Nat → List Char → Reading Value
  | 0, _, cs => .error (stopAfter .endInValue cs)
  | fuel + 1, levels, cs =>
    match skipGaps cs with
    | [] => .error (stopAfter .endInValue [])
    | '"' :: rest =>
      match readString [] rest with
      | .error e => .error e
      | .ok (s, rest) => .ok (.string (String.ofList s), rest)
    | '[' :: rest =>
      if levels ≤ 1 then .error (stopAfter .nestingLimit ('[' :: rest))
      else readItems fuel (levels - 1) true [] rest
    | '\x7b' :: rest =>
      if levels ≤ 1 then .error (stopAfter .nestingLimit ('\x7b' :: rest))
      else readMembers fuel (levels - 1) true [] rest
    | 'n' :: rest => readWord .null "ull".toList rest
    | 't' :: rest => readWord (.boolean true) "rue".toList rest
    | 'f' :: rest => readWord (.boolean false) "alse".toList rest
    | '-' :: rest => (readNumber false rest).map fun (n, rest) => (.number n, rest)
    | c :: rest =>
      if isDigit c then (readNumber true (c :: rest)).map fun (n, rest) => (.number n, rest)
      else .error (stopAfter .expectedValue (c :: rest))

/-- The items of an array up to its end. `done` are those read before, last first. -/
def readItems : Nat → Nat → Bool → List Value → List Char → Reading Value
  | 0, _, _, _, cs => .error (stopAfter .endInArray cs)
  | fuel + 1, levels, isFirst, done, cs =>
    match skipGaps cs with
    | [] => .error (stopAfter .endInArray [])
    | ']' :: rest => .ok (.array done.reverse, rest)
    | c :: rest =>
      if c = ',' ∧ !isFirst then
        match skipGaps rest with
        | [] => .error (stopAfter .endInValue [])
        | ']' :: rest => .error (stopAfter .trailingComma (']' :: rest))
        | rest =>
          match readValue fuel levels rest with
          | .error e => .error e
          | .ok (v, rest) => readItems fuel levels false (v :: done) rest
      else if isFirst then
        match readValue fuel levels (c :: rest) with
        | .error e => .error e
        | .ok (v, rest) => readItems fuel levels false (v :: done) rest
      else .error (stopAfter .expectedArrayEnd (c :: rest))

/-- The members of an object up to its end. `done` are those read before, last first. -/
def readMembers : Nat → Nat → Bool → List (String × Value) → List Char → Reading Value
  | 0, _, _, _, cs => .error (stopAfter .endInObject cs)
  | fuel + 1, levels, isFirst, done, cs =>
    match skipGaps cs with
    | [] => .error (stopAfter .endInObject [])
    | '\x7d' :: rest => .ok (.object done.reverse, rest)
    | c :: rest =>
      if c = ',' ∧ !isFirst then
        match skipGaps rest with
        | [] => .error (stopAfter .endInValue [])
        | '\x7d' :: rest => .error (stopAfter .trailingComma ('\x7d' :: rest))
        | rest => readMember fuel levels done rest
      else if isFirst then readMember fuel levels done (c :: rest)
      else .error (stopAfter .expectedObjectEnd (c :: rest))

/-- A member and those after it. -/
def readMember : Nat → Nat → List (String × Value) → List Char → Reading Value
  | 0, _, _, cs => .error (stopAfter .endInObject cs)
  | fuel + 1, levels, done, cs =>
    match cs with
    | '"' :: rest =>
      match readString [] rest with
      | .error e => .error e
      | .ok (key, rest) =>
        match readColon rest with
        | .error e => .error e
        | .ok rest =>
          match readValue fuel levels rest with
          | .error e => .error e
          | .ok (v, rest) => readMembers fuel levels false ((String.ofList key, v) :: done) rest
    | _ => .error (stopAfter .keyMustBeString cs)

end

/-- The value that a text is, with blanks around it. -/
def Value.ofText (text : List Char) : Except Fault Value :=
  let result : Except Stop Value :=
    match readValue (3 * text.length + 3) nestingLimit text with
    | .error e => .error e
    | .ok (v, rest) =>
      match skipGaps rest with
      | [] => .ok v
      | rest => .error (stopAfter .trailingCharacters rest)
  match result with
  | .ok v => .ok v
  | .error e =>
    let (line, column) := placeOf text (byteLength text - e.left) 1 0
    .error ⟨e.problem, line, column⟩

end TestLocator.Json
