import TestLocator.Json.Double
import TestLocator.Toml.Value

/-!
# Numbers and dates

Values that are written without quotes, as runs of characters.

* `isRunChar` — what such a run consists of;
* `integer?`, `isFloat`, `isDateTime`;
* **`scalar?`** — the value that a run is.
-/

namespace TestLocator.Toml

/-- A digit. -/
def isDigit (c : Char) : Bool := '0' ≤ c ∧ c ≤ '9'

/-- The characters of numbers, dates and words. -/
def isRunChar (c : Char) : Bool := c.isAlphanum || c = '_' || c = '+' || c = '-' || c = '.' || c = ':'

/-- The value of a digit, of base sixteen at most. -/
def digitValue? (base : Nat) (c : Char) : Option Nat :=
  let v := if isDigit c then c.toNat - 48
    else if 'a' ≤ c ∧ c ≤ 'f' then c.toNat - 87
    else if 'A' ≤ c ∧ c ≤ 'F' then c.toNat - 55
    else base
  if v < base then some v else none

/-- The number that digits tell, which may have single underscores between them. `value` is the
number of the digits before, and `mustGoOn` tells that a digit must come. -/
def digitsOnto (base : Nat) (value : Nat) (mustGoOn : Bool) : List Char → Option Nat
  | [] => if mustGoOn then none else some value
  | c :: cs =>
    if c = '_' then if mustGoOn then none else digitsOnto base value true cs
    else (digitValue? base c).bind fun d => digitsOnto base (value * base + d) false cs

/-- The number that digits tell. -/
def digits? (base : Nat) (cs : List Char) : Option Nat := digitsOnto base 0 true cs

/-- A run without its sign. -/
def splitSign : List Char → Bool × List Char
  | '+' :: cs => (true, cs)
  | '-' :: cs => (false, cs)
  | cs => (true, cs)

/-- The number that decimal digits tell; there is no zero in front. -/
def decimal? : List Char → Option Nat
  | ['0'] => some 0
  | '0' :: _ => none
  | cs => digits? 10 cs

/-- An integer. -/
def integer? (cs : List Char) : Option Int :=
  match cs with
  | '0' :: 'x' :: ds => (digits? 16 ds).map Int.ofNat
  | '0' :: 'o' :: ds => (digits? 8 ds).map Int.ofNat
  | '0' :: 'b' :: ds => (digits? 2 ds).map Int.ofNat
  | _ =>
    let (positive, ds) := splitSign cs
    (decimal? ds).map fun n => if positive then (n : Int) else -(n : Int)

/-- An integer is of at most 128 bits. -/
def isRepresentable (n : Int) : Bool := -(Int.pow 2 127) ≤ n ∧ n < Int.pow 2 128

/-- Whether a decimal number is no more than a double can hold. -/
def isFinite (significand : Nat) (exponent : Int) : Bool :=
  let magnitude := (Nat.toDigits 10 significand).length + exponent
  if significand = 0 ∨ magnitude < -400 then true
  else if 400 < magnitude then false
  else if 0 ≤ exponent then
    (Json.Double.ofQuotient? (significand * Nat.pow 10 exponent.toNat) 1).isSome
  else (Json.Double.ofQuotient? significand (Nat.pow 10 (-exponent).toNat)).isSome

/-- The exponent of a float, after its letter. -/
def exponent? (cs : List Char) : Option Int :=
  let (positive, ds) := splitSign cs
  (digits? 10 ds).map fun n => if positive then (n : Int) else -(n : Int)

/-- Whether a run is a float. -/
def isFloat (cs : List Char) : Bool :=
  let (_, body) := splitSign cs
  if body = "inf".toList ∨ body = "nan".toList then true
  else
    let isLetter (c : Char) : Bool := c = 'e' || c = 'E'
    let front := body.takeWhile fun c => !isLetter c
    let back := body.dropWhile fun c => !isLetter c
    let whole := front.takeWhile (· ≠ '.')
    let fraction := front.dropWhile (· ≠ '.')
    let exponent := match back with
      | [] => some 0
      | _ :: e => exponent? e
    match decimal? whole, exponent, fraction with
    | some n, some e, [] => !back.isEmpty && isFinite n e
    | some n, some e, _ :: ds =>
      match digits? 10 ds with
      | some _ =>
        let places := (ds.filter isDigit).length
        match digits? 10 ((Nat.toDigits 10 n) ++ ds) with
        | some m => isFinite m (e - places)
        | none => false
      | none => false
    | _, _, _ => false

/-! ## Dates -/

/-- The number of some digits, if there are exactly so many. -/
def exactly? (count : Nat) (cs : List Char) : Option (Nat × List Char) :=
  let ds := cs.take count
  if ds.length = count ∧ ds.all isDigit then (digits? 10 ds).map fun n => (n, cs.drop count) else none

/-- The days of a month. -/
def daysIn (year month : Nat) : Nat :=
  if month = 2 then
    if (year % 4 = 0 ∧ year % 100 ≠ 0) ∨ year % 400 = 0 then 29 else 28
  else if [4, 6, 9, 11].contains month then 30 else 31

/-- What follows a date. -/
def afterDate? (cs : List Char) : Option (List Char) := do
  let (year, cs) ← exactly? 4 cs
  let cs ← if cs.head? = some '-' then some cs.tail else none
  let (month, cs) ← exactly? 2 cs
  let cs ← if cs.head? = some '-' then some cs.tail else none
  let (day, cs) ← exactly? 2 cs
  if 1 ≤ month ∧ month ≤ 12 ∧ 1 ≤ day ∧ day ≤ daysIn year month then some cs else none

/-- What follows the seconds of a time and their fraction. -/
def afterSeconds? (cs : List Char) : Option (List Char) :=
  match cs with
  | ':' :: rest =>
    (exactly? 2 rest).bind fun (second, rest) =>
      if 60 < second then none
      else
        match rest with
        | '.' :: fraction =>
          if (fraction.head?.map isDigit).getD false then some (fraction.dropWhile isDigit) else none
        | _ => some rest
  | _ => some cs

/-- What follows a time. -/
def afterTime? (cs : List Char) : Option (List Char) := do
  let (hour, cs) ← exactly? 2 cs
  let cs ← if cs.head? = some ':' then some cs.tail else none
  let (minute, cs) ← exactly? 2 cs
  if hour ≤ 23 ∧ minute ≤ 59 then afterSeconds? cs else none

/-- Whether a run is the difference of a time from the common one, or nothing. -/
def isOffset : List Char → Bool
  | [] | ['Z'] | ['z'] => true
  | sign :: cs =>
    (sign = '+' || sign = '-') &&
      match exactly? 2 cs with
      | some (hour, ':' :: rest) =>
        match exactly? 2 rest with
        | some (minute, []) => hour ≤ 23 && minute ≤ 59
        | _ => false
      | _ => false

/-- Whether a run is a date, a time, or both. -/
def isDateTime (cs : List Char) : Bool :=
  match afterDate? cs with
  | some [] => true
  | some (mark :: rest) =>
    (mark = 'T' || mark = 't' || mark = ' ') && ((afterTime? rest).map isOffset).getD false
  | none => afterTime? cs = some []

/-- The value that a run is. -/
def scalar? (run : List Char) : Option Value :=
  if run = "true".toList then some (.boolean true)
  else if run = "false".toList then some (.boolean false)
  else
    match integer? run with
    | some n => if isRepresentable n then some (.integer n) else none
    | none => if isFloat run then some .float else if isDateTime run then some .dateTime else none

end TestLocator.Toml
