/-!
# Doubles

Binary floating-point numbers of 64 bits, without sign, as exact values.

* `Double` — `mantissa * 2 ^ exponent`;
* `Double.ofQuotient?` — the nearest double to a quotient;
* `Double.mul?`, `Double.div?`, `Double.powerOfTen?`;
* **`Double.ofDecimal?`** — a decimal number by repeated rounding.
-/

namespace TestLocator.Json

/-- The number `mantissa * 2 ^ exponent`. -/
structure Double where
  mantissa : Nat
  exponent : Int
  deriving DecidableEq, Repr, Inhabited

namespace Double

/-- Zero. -/
def zero : Double := ⟨0, 0⟩

/-- Whether the number is zero. -/
def isZero (d : Double) : Bool := d.mantissa = 0

/-- `2 ^ n` as a factor above and below the line. -/
def powerOfTwo (n : Int) : Nat × Nat := (Nat.pow 2 n.toNat, Nat.pow 2 (-n).toNat)

/-- A quotient rounded to the nearest natural number; a half goes to the even neighbour. -/
def roundQuotient (num den : Nat) : Nat :=
  let q := num / den
  let r := num % den
  if den < 2 * r ∨ (2 * r = den ∧ q % 2 = 1) then q + 1 else q

/-- The largest `e` with `2 ^ e ≤ num / den`. -/
def magnitude (num den : Nat) : Int :=
  let e : Int := (num.log2 : Int) - (den.log2 : Int)
  let (up, down) := powerOfTwo e
  if up * den ≤ num * down then e else e - 1

/-- The smallest exponent of a double. -/
def minExponent : Int := -1074

/-- The nearest double to a quotient; none if it is too large. -/
def ofQuotient? (num den : Nat) : Option Double :=
  if num = 0 then some zero
  else
    let e := max (magnitude num den - 52) minExponent
    let (up, down) := powerOfTwo e
    let m := roundQuotient (num * down) (den * up)
    if m = 0 then some zero
    else if Nat.pow 2 53 ≤ m ∧ 971 ≤ e ∨ 971 < e then none
    else some ⟨m, e⟩

/-- The product of two doubles. -/
def mul? (a b : Double) : Option Double :=
  let (up, down) := powerOfTwo (a.exponent + b.exponent)
  ofQuotient? (a.mantissa * b.mantissa * up) down

/-- The quotient of two doubles. -/
def div? (a b : Double) : Option Double :=
  let (up, down) := powerOfTwo (a.exponent - b.exponent)
  ofQuotient? (a.mantissa * up) (b.mantissa * down)

/-- The nearest double to a power of ten. -/
def powerOfTen? (n : Nat) : Option Double := ofQuotient? (Nat.pow 10 n) 1

/-- The largest power of ten that is a double. -/
def maxPower : Nat := 308

/-- Scale by a power of ten, in steps of `10 ^ 308`; none if the result is too large. Two steps down
make every double zero. -/
def scale? : Nat → Double → Int → Option Double
  | 0, _, _ => some zero
  | steps + 1, d, n =>
    if n.natAbs ≤ maxPower then
      (powerOfTen? n.natAbs).bind fun p => if 0 ≤ n then d.mul? p else d.div? p
    else if d.isZero then some d
    else if 0 ≤ n then none
    else (powerOfTen? maxPower).bind fun p => (d.div? p).bind fun q => scale? steps q (n + maxPower)

/-- The double for `significand * 10 ^ n`: the significand is rounded first, and then every
scaling. -/
def ofDecimal? (significand : Nat) (n : Int) : Option Double :=
  (ofQuotient? significand 1).bind fun d => scale? 5 d n

end Double

end TestLocator.Json
