import Mathlib.Tactic.SplitIfs
import TestLocator.Proofs.Json.Digits
import TestLocator.Proofs.Text.Trimming

/-!
# Ways to write a number

A number is written as a whole number, a fraction and an exponent. It is an integer if the last two
are missing and it fits into 64 bits, and a double otherwise.

* `Exponent`, `Numeral`, `Numeral.written`, `Numeral.number?` — a written number, part by part, and
  what it stands for;
* `Numeral.Stops`, **`readNumber_unsigned_iff`** — where nothing continues it, it is read as what it
  stands for;
* **`exists_numeral_of_readNumber`** — nothing else is read;
* `SpellsNumber`, **`spellsNumber_natural_iff`** — a text is a number; how natural numbers are
  written.
-/

namespace TestLocator.Json

/-- An exponent: a letter, perhaps a sign, and digits. -/
structure Exponent where
  letter : Char
  sign : List Char
  digits : List Char

namespace Exponent

/-- The parts of an exponent are what they should be. -/
structure WellFormed (e : Exponent) : Prop where
  letter : e.letter = 'e' ∨ e.letter = 'E'
  sign : e.sign = [] ∨ e.sign = ['+'] ∨ e.sign = ['-']
  ne_nil : e.digits ≠ []
  digits : AreDigits e.digits

/-- How an exponent is written behind its letter. -/
def body (e : Exponent) : List Char := e.sign ++ e.digits

/-- Whether an exponent makes a number larger. -/
def isUp (e : Exponent) : Bool := e.sign ≠ ['-']

end Exponent

/-- A written number. There is no point if there is no digit of a fraction. -/
structure Numeral where
  isNegative : Bool := false
  whole : List Char
  fraction : List Char := []
  exponent : Option Exponent := none

/-- How an exponent is written, if there is one. -/
def writtenExponent : Option Exponent → List Char
  | none => []
  | some e => e.letter :: e.body

/-- How the digits of a fraction are written, if there are any. -/
def writtenFraction (digits : List Char) : List Char := if digits = [] then [] else '.' :: digits

/-- The double of a significand that counts `10 ^ start`, with an exponent. A size beyond the
largest one is not looked at: the double is zero, or too large. -/
def powered? (significand : Nat) (start : Int) (up : Bool) (size : Nat) : Option Double :=
  if maxExponent < size then if significand ≠ 0 ∧ up then none else some .zero
  else Double.ofDecimal? significand (if up then start + size else start - size)

/-- The double of a significand that counts `10 ^ start`, with an exponent if there is one. -/
def scaledDouble? (significand : Nat) (start : Int) : Option Exponent → Option Double
  | none => Double.ofDecimal? significand start
  | some e => powered? significand start e.isUp (valueOf e.digits)

namespace Numeral

/-- The parts of a number are what they should be. -/
structure WellFormed (l : Numeral) : Prop where
  whole : IsWhole l.whole
  fraction : AreDigits l.fraction
  exponent : ∀ e ∈ l.exponent, e.WellFormed

/-- How a number is written behind its sign. -/
def unsigned (l : Numeral) : List Char :=
  l.whole ++ (writtenFraction l.fraction ++ writtenExponent l.exponent)

/-- How a number is written. -/
def written (l : Numeral) : List Char := if l.isNegative then '-' :: l.unsigned else l.unsigned

/-- The double that a number stands for. Its significand are the digits that fit into 64 bits: those
of the whole number that do not are counted as zeros, and those of the fraction are left out. -/
def double? (l : Numeral) : Option Double :=
  let (n, _, more) := takeDigits 0 0 l.whole
  let (m, count, _) := takeDigits n 0 l.fraction
  scaledDouble? m (more.length - count) l.exponent

/-- What a number stands for. -/
def number? (l : Numeral) : Option Number :=
  if l.fraction = [] ∧ l.exponent = none ∧ valueOf l.whole < Nat.pow 2 64 then
    some (integer (!l.isNegative) (valueOf l.whole))
  else l.double?.map (.double l.isNegative)

end Numeral

/-- A text is a number. -/
def SpellsNumber (x : Number) (w : List Char) : Prop :=
  ∃ l : Numeral, l.WellFormed ∧ l.written = w ∧ l.number? = some x

/-! ## Exponents -/

variable {positive up : Bool} {m n : Nat} {start : Int} {cs ds rest : List Char}
  {r : Number × List Char}

theorem scaled_eq_ok_iff : scaled positive m start rest = .ok r ↔
    ∃ d, Double.ofDecimal? m start = some d ∧ r = (.double (!positive) d, rest) := by
  unfold scaled
  cases Double.ofDecimal? m start <;> simp [eq_comm]

theorem readExponentDigits_of_ends (hrest : EndsDigits rest) (n : Nat) :
    readExponentDigits positive up m start n rest =
      scaled positive m (if up then start + n else start - n) rest := by
  cases rest with
  | nil => rfl
  | cons c rest => rw [readExponentDigits, if_neg (hrest c rfl)]

theorem readExponentDigits_eq_ok_iff (hds : AreDigits ds) (hrest : EndsDigits rest)
    (hn : n ≤ maxExponent) :
    readExponentDigits positive up m start n (ds ++ rest) = .ok r ↔
      ∃ d, powered? m start up (Nat.ofDigitChars 10 ds n) = some d ∧
        r = (.double (!positive) d, rest) := by
  induction ds generalizing n with
  | nil =>
    rw [List.nil_append, readExponentDigits_of_ends hrest, scaled_eq_ok_iff, Nat.ofDigitChars_nil,
      powered?, if_neg (Nat.not_lt.mpr hn)]
  | cons d ds ih =>
    obtain ⟨hd, hds⟩ := List.forall_mem_cons.mp hds
    rw [ofDigitChars_cons, List.cons_append, readExponentDigits, if_pos hd]
    by_cases hlarge : maxExponent < n * 10 + (d.toNat - 48)
    · have hall := hlarge.trans_le (le_ofDigitChars ds _)
      rw [if_pos hlarge, powered?, if_pos hall, Text.dropWhile_append hds hrest]
      split_ifs <;> simp [eq_comm]
    · rw [if_neg hlarge, ih hds (Nat.not_lt.mp hlarge)]

theorem ne_of_isDigit {c d : Char} (hc : isDigit c) (hd : isDigit d = false) : c ≠ d := by
  rintro rfl
  rw [hc] at hd
  cases hd

theorem readExponent_of_digit {sign : List Char} {c : Char}
    (hsign : sign = [] ∨ sign = ['+'] ∨ sign = ['-']) (hc : isDigit c) (cs : List Char) :
    readExponent positive m start (sign ++ c :: cs) =
      readExponentDigits positive (sign ≠ ['-']) m start (c.toNat - 48) cs := by
  obtain rfl | rfl | rfl := hsign
  · rw [List.nil_append, readExponent]
    · exact if_pos hc
    · exact fun _ h => ne_of_isDigit hc rfl (List.cons.inj h).1
    · exact fun _ h => ne_of_isDigit hc rfl (List.cons.inj h).1
  · exact if_pos hc
  · exact if_pos hc

/-- **An exponent is read as what it makes of the number.** -/
theorem readExponent_eq_ok_iff {e : Exponent} (he : e.WellFormed) (hrest : EndsDigits rest) :
    readExponent positive m start (e.body ++ rest) = .ok r ↔
      ∃ d, powered? m start e.isUp (valueOf e.digits) = some d ∧
        r = (.double (!positive) d, rest) := by
  obtain ⟨letter, sign, digits⟩ := e
  obtain ⟨-, hsign, hne, hdigits⟩ := he
  obtain ⟨c, ds, rfl⟩ := List.exists_cons_of_ne_nil hne
  obtain ⟨hc, hds⟩ := List.forall_mem_cons.mp hdigits
  have hfirst : c.toNat - 48 ≤ maxExponent := by
    have hsize := isDigit_iff.mp hc
    have hmax : maxExponent = 2147483647 := rfl
    omega
  rw [Exponent.body, List.append_assoc, List.cons_append, readExponent_of_digit hsign hc,
    readExponentDigits_eq_ok_iff hds hrest hfirst, valueOf, ofDigitChars_cons, Nat.zero_mul,
    Nat.zero_add, Exponent.isUp]

theorem exists_exponent_of_readExponent {letter : Char} (hletter : letter = 'e' ∨ letter = 'E')
    (h : readExponent positive m start cs = .ok r) :
    ∃ (e : Exponent) (rest : List Char), e.letter = letter ∧ e.WellFormed ∧ cs = e.body ++ rest ∧
      EndsDigits rest := by
  have hdigits : ∃ sign c ds, (sign = [] ∨ sign = ['+'] ∨ sign = ['-']) ∧ cs = sign ++ c :: ds ∧
      isDigit c := by
    unfold readExponent at h
    split at h
    · next digits hsplit =>
      split at h
      · cases h
      · next c ds =>
        split_ifs at h with hc
        split at hsplit <;> cases hsplit
        · exact ⟨['+'], c, ds, .inr (.inl rfl), rfl, hc⟩
        · exact ⟨['-'], c, ds, .inr (.inr rfl), rfl, hc⟩
        · exact ⟨[], c, ds, .inl rfl, rfl, hc⟩
  obtain ⟨sign, c, cs, hsign, rfl, hc⟩ := hdigits
  obtain ⟨ds, rest, rfl, hds, hrest⟩ := exists_digits cs
  exact ⟨⟨letter, sign, c :: ds⟩, rest, rfl,
    ⟨hletter, hsign, List.cons_ne_nil c ds, List.forall_mem_cons.mpr ⟨hc, hds⟩⟩, by
      simp [Exponent.body], hrest⟩

/-- No exponent comes next. -/
def EndsExponent (cs : List Char) : Prop := ∀ c ∈ cs.head?, c ≠ 'e' ∧ c ≠ 'E'

theorem endsExponent_of_ne (hsmall : ∀ ds, cs = 'e' :: ds → False)
    (hlarge : ∀ ds, cs = 'E' :: ds → False) : EndsExponent cs := fun c hc => by
  obtain ⟨ds, rfl⟩ := List.head?_eq_some_iff.mp hc
  exact ⟨fun hletter => hsmall ds (by rw [hletter]), fun hletter => hlarge ds (by rw [hletter])⟩

theorem readScale_of_ends (h : EndsExponent cs) :
    readScale positive m start cs = scaled positive m start cs := by
  unfold readScale
  split
  · exact absurd rfl (h 'e' rfl).1
  · exact absurd rfl (h 'E' rfl).2
  · rfl

theorem readScale_eq_ok_iff {e : Option Exponent} (he : ∀ e' ∈ e, e'.WellFormed)
    (hrest : EndsDigits rest) (hnone : e = none → EndsExponent rest) :
    readScale positive m start (writtenExponent e ++ rest) = .ok r ↔
      ∃ d, scaledDouble? m start e = some d ∧ r = (.double (!positive) d, rest) := by
  cases e with
  | none => exact (readScale_of_ends (hnone rfl)).symm ▸ scaled_eq_ok_iff
  | some e =>
    have hread : readScale positive m start (e.letter :: (e.body ++ rest)) =
        readExponent positive m start (e.body ++ rest) := by
      obtain hletter | hletter := (he e rfl).letter <;> rw [hletter] <;> rfl
    rw [writtenExponent, List.cons_append, hread, readExponent_eq_ok_iff (he e rfl) hrest,
      scaledDouble?]

theorem exists_exponent_of_readScale (hcs : EndsDigits cs)
    (h : readScale positive m start cs = .ok r) :
    ∃ (e : Option Exponent) (rest : List Char), (∀ e' ∈ e, e'.WellFormed) ∧
      cs = writtenExponent e ++ rest ∧ EndsDigits rest ∧ (e = none → EndsExponent rest) := by
  have hsome : ∀ letter ds, letter = 'e' ∨ letter = 'E' → cs = letter :: ds →
      readExponent positive m start ds = .ok r → ∃ (e : Option Exponent) (rest : List Char),
        (∀ e' ∈ e, e'.WellFormed) ∧ cs = writtenExponent e ++ rest ∧ EndsDigits rest ∧
          (e = none → EndsExponent rest) := by
    rintro letter ds hletter rfl hread
    obtain ⟨e, rest, rfl, he, rfl, hrest⟩ := exists_exponent_of_readExponent hletter hread
    exact ⟨some e, rest, by rintro _ ⟨⟩; exact he, rfl, hrest, nofun⟩
  unfold readScale at h
  split at h
  · next ds => exact hsome 'e' ds (.inl rfl) rfl h
  · next ds => exact hsome 'E' ds (.inr rfl) rfl h
  · next hsmall hlarge =>
    exact ⟨none, cs, nofun, rfl, hcs, fun _ => endsExponent_of_ne hsmall hlarge⟩

/-! ## Fractions -/

theorem takeDigits_length (ds : List Char) (n k : Nat) :
    (takeDigits n k ds).2.1 + (takeDigits n k ds).2.2.length = k + ds.length := by
  fun_induction takeDigits n k ds with
  | case1 n k => rfl
  | case2 n k d ds next hd ih => rw [ih, List.length_cons]; omega
  | case3 n k d ds => rfl

theorem readFraction_digits (hds : AreDigits ds) (hne : ds ≠ []) (hrest : EndsDigits rest) :
    readFraction positive n start (ds ++ rest) =
      readScale positive (takeDigits n 0 ds).1 (start - (takeDigits n 0 ds).2.1) rest := by
  have hmore : AreDigits (takeDigits n 0 ds).2.2 := fun c hc =>
    hds c ((takeDigits_isSuffix ds n 0).subset hc)
  have hlength := takeDigits_length ds n 0
  simp only [readFraction, takeDigits_append hds hrest]
  cases hleft : (takeDigits n 0 ds).2.2 with
  | nil =>
    have hpos := List.length_pos_iff.mpr hne
    rw [hleft, List.length_nil] at hlength
    rw [List.nil_append, startsWithDigit_eq_false_iff.mpr hrest, if_neg Bool.false_ne_true,
      if_neg (by omega)]
  | cons d more =>
    rw [hleft] at hmore
    rw [startsWithDigit_append hmore hrest, Text.dropWhile_append hmore hrest]
    rfl

theorem exists_digits_of_readFraction (h : readFraction positive n start cs = .ok r) :
    ∃ ds rest, cs = ds ++ rest ∧ AreDigits ds ∧ ds ≠ [] ∧ EndsDigits rest := by
  obtain ⟨ds, rest, rfl, hds, hrest⟩ := exists_digits cs
  refine ⟨ds, rest, rfl, hds, ?_, hrest⟩
  rintro rfl
  simp [readFraction, takeDigits_of_ends hrest, startsWithDigit_eq_false_iff.mpr hrest] at h

/-! ## Whole numbers -/

theorem readNumber_whole (hcs : IsWhole cs) (hrest : EndsDigits rest) :
    readNumber positive (cs ++ rest) =
      if (takeDigits 0 0 cs).2.2 = [] then readTail positive (takeDigits 0 0 cs).1 rest
      else readLongTail positive (takeDigits 0 0 cs).1 ((takeDigits 0 0 cs).2.2 ++ rest) := by
  cases hcs with
  | zero =>
    have hzero : takeDigits 0 0 ['0'] = (0, 1, []) := rfl
    rw [hzero, if_pos rfl, List.singleton_append, readNumber,
      startsWithDigit_eq_false_iff.mpr hrest, if_neg Bool.false_ne_true]
  | @digits c ds hc hzero hds =>
    have hfirst : 0 * 10 + (c.toNat - 48) < Nat.pow 2 64 := by
      have hsize := isDigit_iff.mp hc
      have hmax : Nat.pow 2 64 = 18446744073709551616 := rfl
      omega
    have hmore : AreDigits (takeDigits (c.toNat - 48) 0 ds).2.2 := fun d hd =>
      hds d ((takeDigits_isSuffix ds _ 0).subset hd)
    have hall : takeDigits 0 0 (c :: ds) = ((takeDigits (c.toNat - 48) 0 ds).1,
        (takeDigits (c.toNat - 48) 0 ds).2.1 + 1, (takeDigits (c.toNat - 48) 0 ds).2.2) := by
      rw [takeDigits, if_pos ⟨hc, hfirst⟩, takeDigits_count, Nat.zero_mul, Nat.zero_add]
    rw [hall, List.cons_append, readNumber, if_pos hc, takeDigits_append hds hrest]
    · simp only [startsWithDigit_append hmore hrest]
      cases (takeDigits (c.toNat - 48) 0 ds).2.2 <;> rfl
    · exact hzero

theorem areDigits_left (hcs : IsWhole cs) : AreDigits (takeDigits 0 0 cs).2.2 := fun d hd =>
  hcs.areDigits d ((takeDigits_isSuffix cs 0 0).subset hd)

/-- Behind a point a fraction is read. -/
theorem readNumber_point (hcs : IsWhole cs) (ds : List Char) :
    readNumber positive (cs ++ '.' :: ds) =
      readFraction positive (takeDigits 0 0 cs).1 (takeDigits 0 0 cs).2.2.length ds := by
  have hpoint : EndsDigits ('.' :: ds) := by
    rintro _ ⟨⟩
    decide
  have hmore := areDigits_left hcs
  rw [readNumber_whole hcs hpoint]
  split_ifs with hleft
  · rw [hleft]
    rfl
  · simp only [readLongTail, takeWhile_digits hmore hpoint, Text.dropWhile_append hmore hpoint]

theorem readNumber_scale (hcs : IsWhole cs) (hrest : EndsDigits rest)
    (hpoint : rest.head? ≠ some '.')
    (h : (takeDigits 0 0 cs).2.2 ≠ [] ∨ ¬ EndsExponent rest) :
    readNumber positive (cs ++ rest) =
      readScale positive (takeDigits 0 0 cs).1 (takeDigits 0 0 cs).2.2.length rest := by
  have hmore := areDigits_left hcs
  rw [readNumber_whole hcs hrest]
  split_ifs with hleft
  · rw [hleft]
    unfold readTail
    split
    · exact absurd rfl hpoint
    · rfl
    · rfl
    · next hsmall hlarge =>
      refine absurd (endsExponent_of_ne hsmall hlarge) (h.resolve_left (not_not.mpr hleft))
  · simp only [readLongTail, takeWhile_digits hmore hrest, Text.dropWhile_append hmore hrest]
    split
    · exact absurd rfl hpoint
    · rfl

theorem readNumber_integer (hcs : IsWhole cs) (hrest : EndsDigits rest)
    (hpoint : rest.head? ≠ some '.') (hscale : EndsExponent rest)
    (h : valueOf cs < Nat.pow 2 64) :
    readNumber positive (cs ++ rest) = .ok (integer positive (valueOf cs), rest) := by
  rw [readNumber_whole hcs hrest, takeDigits_of_lt hcs.areDigits h, if_pos rfl]
  unfold readTail
  split
  · exact absurd rfl hpoint
  · exact absurd rfl (hscale 'e' rfl).1
  · exact absurd rfl (hscale 'E' rfl).2
  · rfl

theorem exists_whole_of_readNumber (h : readNumber positive cs = .ok r) :
    ∃ whole rest, cs = whole ++ rest ∧ IsWhole whole ∧ EndsDigits rest := by
  unfold readNumber at h
  split at h
  · cases h
  · next rest =>
    split_ifs at h with hdigit
    exact ⟨['0'], rest, rfl, .zero, startsWithDigit_eq_false_iff.mp (Bool.eq_false_iff.mpr hdigit)⟩
  · next c cs hzero =>
    split_ifs at h with hc
    obtain ⟨ds, rest, rfl, hds, hrest⟩ := exists_digits cs
    exact ⟨c :: ds, rest, rfl, .digits hc hzero hds, hrest⟩

/-! ## Numbers -/

/-- Nothing in a text continues the number in front of it. -/
structure Numeral.Stops (l : Numeral) (rest : List Char) : Prop where
  endsDigits : EndsDigits rest
  endsExponent : l.exponent = none → EndsExponent rest
  noPoint : l.exponent = none → l.fraction = [] → rest.head? ≠ some '.'

variable {l : Numeral} {x : Number}

theorem endsDigits_writtenExponent {e : Option Exponent} (he : ∀ e' ∈ e, e'.WellFormed)
    (hrest : EndsDigits rest) : EndsDigits (writtenExponent e ++ rest) := by
  cases e with
  | none => exact hrest
  | some e =>
    rintro c ⟨⟩
    obtain hletter | hletter := (he e rfl).letter <;> rw [hletter] <;> decide

theorem Numeral.Stops.head?_ne_point (hrest : l.Stops rest) (hl : l.WellFormed)
    (hfraction : l.fraction = []) : (writtenExponent l.exponent ++ rest).head? ≠ some '.' := by
  cases he : l.exponent with
  | none => exact hrest.noPoint he hfraction
  | some e =>
    intro h
    have hpoint : e.letter = '.' := Option.some.inj h
    obtain hletter | hletter := (hl.exponent e he).letter <;> rw [hletter] at hpoint <;>
      cases hpoint

/-- What a double is read as. -/
theorem readScale_double_iff (hl : l.WellFormed) (hrest : l.Stops rest) :
    readScale (!l.isNegative) (takeDigits (takeDigits 0 0 l.whole).1 0 l.fraction).1
        ((takeDigits 0 0 l.whole).2.2.length -
          (takeDigits (takeDigits 0 0 l.whole).1 0 l.fraction).2.1)
        (writtenExponent l.exponent ++ rest) = .ok r ↔
      ∃ x, l.double?.map (.double l.isNegative) = some x ∧ r = (x, rest) := by
  rw [readScale_eq_ok_iff hl.exponent hrest.endsDigits hrest.endsExponent]
  simp only [Numeral.double?, Bool.not_not, Option.map_eq_some_iff]
  constructor
  · rintro ⟨d, hd, rfl⟩
    exact ⟨_, ⟨d, hd, rfl⟩, rfl⟩
  · rintro ⟨_, ⟨d, hd, rfl⟩, rfl⟩
    exact ⟨d, hd, rfl⟩

/-- **A number is read as what it stands for**, where nothing continues it. -/
theorem readNumber_unsigned_iff (hl : l.WellFormed) (hrest : l.Stops rest) :
    readNumber (!l.isNegative) (l.unsigned ++ rest) = .ok r ↔
      ∃ x, l.number? = some x ∧ r = (x, rest) := by
  have htail := endsDigits_writtenExponent hl.exponent hrest.endsDigits
  rw [Numeral.unsigned, writtenFraction, Numeral.number?]
  by_cases hfraction : l.fraction = []
  · have hpoint := hrest.head?_ne_point hl hfraction
    have hnone : takeDigits (takeDigits 0 0 l.whole).1 0 l.fraction =
        ((takeDigits 0 0 l.whole).1, 0, []) := by
      rw [hfraction]
      rfl
    have hdouble := readScale_double_iff (r := r) hl hrest
    rw [hnone] at hdouble
    simp only [Int.natCast_zero, Int.sub_zero] at hdouble
    rw [if_pos hfraction, List.nil_append, List.append_assoc]
    by_cases hint : l.exponent = none ∧ valueOf l.whole < Nat.pow 2 64
    · obtain ⟨hexponent, hfits⟩ := hint
      rw [hexponent] at hpoint
      rw [if_pos ⟨hfraction, hexponent, hfits⟩, hexponent, writtenExponent, List.nil_append,
        readNumber_integer hl.whole hrest.endsDigits hpoint (hrest.endsExponent hexponent) hfits]
      simp [eq_comm]
    · have hscale : (takeDigits 0 0 l.whole).2.2 ≠ [] ∨
          ¬ EndsExponent (writtenExponent l.exponent ++ rest) := by
        cases hexponent : l.exponent with
        | none =>
          have hlarge := Nat.not_lt.mp fun hfits => hint ⟨hexponent, hfits⟩
          exact .inl (takeDigits_of_le (by decide) hlarge 0)
        | some e =>
          have hletter := (hl.exponent e hexponent).letter
          exact .inr fun hends => (hletter.elim (hends e.letter rfl).1 (hends e.letter rfl).2)
      rw [if_neg fun h => hint h.2, readNumber_scale hl.whole htail hpoint hscale, hdouble]
  · rw [if_neg hfraction, if_neg fun h => hfraction h.1, List.append_assoc, List.cons_append,
      List.cons_append, List.append_assoc, readNumber_point hl.whole,
      readFraction_digits hl.fraction hfraction htail]
    exact readScale_double_iff hl hrest

/-- **Nothing else is read.** -/
theorem exists_numeral_of_readNumber (h : readNumber positive cs = .ok (x, rest)) :
    ∃ l : Numeral, l.WellFormed ∧ l.isNegative = !positive ∧ cs = l.unsigned ++ rest ∧
      l.number? = some x := by
  have hparts : ∃ (l : Numeral) (rest : List Char), l.WellFormed ∧ l.isNegative = !positive ∧
      cs = l.unsigned ++ rest ∧ l.Stops rest := by
    obtain ⟨whole, tail, rfl, hwhole, htail⟩ := exists_whole_of_readNumber h
    by_cases hpoint : tail.head? = some '.'
    · obtain ⟨ds, rfl⟩ := List.head?_eq_some_iff.mp hpoint
      rw [readNumber_point hwhole] at h
      obtain ⟨ds, tail, rfl, hds, hne, htail⟩ := exists_digits_of_readFraction h
      rw [readFraction_digits hds hne htail] at h
      obtain ⟨e, rest, he, rfl, hrest, hnone⟩ := exists_exponent_of_readScale htail h
      exact ⟨⟨!positive, whole, ds, e⟩, rest, ⟨hwhole, hds, he⟩, rfl,
        by simp [Numeral.unsigned, writtenFraction, hne], ⟨hrest, hnone, fun _ h => absurd h hne⟩⟩
    · by_cases hscale : EndsExponent tail
      · exact ⟨⟨!positive, whole, [], none⟩, tail, ⟨hwhole, nofun, nofun⟩, rfl,
          by simp [Numeral.unsigned, writtenFraction, writtenExponent],
          ⟨htail, fun _ => hscale, fun _ _ => hpoint⟩⟩
      · rw [readNumber_scale hwhole htail hpoint (.inr hscale)] at h
        obtain ⟨e, rest, he, rfl, hrest, hnone⟩ := exists_exponent_of_readScale htail h
        refine ⟨⟨!positive, whole, [], e⟩, rest, ⟨hwhole, nofun, he⟩, rfl,
          by simp [Numeral.unsigned, writtenFraction], ⟨hrest, hnone, ?_⟩⟩
        rintro rfl _
        exact hpoint
  obtain ⟨l, rest', hl, hsign, rfl, hrest⟩ := hparts
  have hpositive : positive = !l.isNegative := by rw [hsign, Bool.not_not]
  rw [hpositive, readNumber_unsigned_iff hl hrest] at h
  obtain ⟨_, hnumber, heq⟩ := h
  cases heq
  exact ⟨l, hl, hsign, rfl, hnumber⟩

/-! ## Texts that are numbers -/

/-- Nothing in a text continues a number in front of it. -/
def EndsNumber (cs : List Char) : Prop :=
  ∀ c ∈ cs.head?, isDigit c = false ∧ c ≠ '.' ∧ c ≠ 'e' ∧ c ≠ 'E'

theorem EndsNumber.stops (h : EndsNumber rest) (l : Numeral) : l.Stops rest :=
  ⟨fun c hc => Bool.eq_false_iff.mp (h c hc).1, fun _ c hc => (h c hc).2.2,
    fun _ _ hpoint => (h '.' hpoint).2.1 rfl⟩

theorem exists_cons_unsigned (hl : l.WellFormed) : ∃ c cs, l.unsigned = c :: cs ∧ isDigit c := by
  cases hwhole : l.whole with
  | nil => exact absurd (hwhole ▸ hl.whole) nofun
  | cons c cs =>
    refine ⟨c, cs ++ _, by rw [Numeral.unsigned, hwhole, List.cons_append], ?_⟩
    exact hl.whole.areDigits c (hwhole ▸ List.mem_cons_self)

theorem exists_cons_of_spellsNumber {w : List Char} (hw : SpellsNumber x w) :
    ∃ c cs, w = c :: cs ∧ (c = '-' ∨ isDigit c) := by
  obtain ⟨l, hl, rfl, -⟩ := hw
  unfold Numeral.written
  split_ifs
  · exact ⟨'-', _, rfl, .inl rfl⟩
  · obtain ⟨c, cs, hcons, hc⟩ := exists_cons_unsigned hl
    exact ⟨c, cs, hcons, .inr hc⟩

theorem readNumber_of_spells {w : List Char} (hw : SpellsNumber x w) (hrest : EndsNumber rest) :
    (∃ v, w = '-' :: v ∧ readNumber false (v ++ rest) = .ok (x, rest)) ∨
      ∃ c v, w = c :: v ∧ isDigit c ∧ readNumber true (w ++ rest) = .ok (x, rest) := by
  obtain ⟨l, hl, rfl, hx⟩ := hw
  have hread := (readNumber_unsigned_iff hl (hrest.stops l)).mpr ⟨x, hx, rfl⟩
  unfold Numeral.written
  cases hsign : l.isNegative with
  | true =>
    rw [hsign] at hread
    exact .inl ⟨_, rfl, hread⟩
  | false =>
    rw [hsign] at hread
    obtain ⟨c, v, hcons, hc⟩ := exists_cons_unsigned hl
    exact .inr ⟨c, v, hcons, hc, hread⟩

theorem spells_of_readNumber (h : readNumber positive cs = .ok (x, rest)) :
    ∃ w, cs = w ++ rest ∧ SpellsNumber x (if positive then w else '-' :: w) := by
  obtain ⟨l, hl, hsign, rfl, hx⟩ := exists_numeral_of_readNumber h
  refine ⟨_, rfl, l, hl, ?_, hx⟩
  cases positive <;> simp [Numeral.written, hsign]

theorem spellsNumber_integer (hn : n < Nat.pow 2 64) :
    SpellsNumber (integer positive n)
      (if positive then Nat.toDigits 10 n else '-' :: Nat.toDigits 10 n) := by
  have hvalue : valueOf (Nat.toDigits 10 n) = n := Nat.ofDigitChars_ten_toDigits
  refine ⟨⟨!positive, Nat.toDigits 10 n, [], none⟩, ⟨isWhole_toDigits n, nofun, nofun⟩, ?_, ?_⟩
  · cases positive <;> simp [Numeral.written, Numeral.unsigned, writtenFraction, writtenExponent]
  · simp only [Numeral.number?, hvalue, hn, and_self, if_true, Bool.not_not]

/-- **A natural number is written as its digits**, and it fits into 64 bits. -/
theorem spellsNumber_natural_iff {w : List Char} :
    SpellsNumber (.natural n) w ↔ w = Nat.toDigits 10 n ∧ n < Nat.pow 2 64 := by
  constructor
  · rintro ⟨l, hl, rfl, hx⟩
    unfold Numeral.number? at hx
    split_ifs at hx with hint
    · obtain ⟨hfraction, hexponent, hfits⟩ := hint
      cases hsign : l.isNegative with
      | true =>
        rw [hsign] at hx
        simp only [integer, Bool.not_true, Bool.false_eq_true, if_false, Option.some.injEq] at hx
        split_ifs at hx
      | false =>
        rw [hsign] at hx
        obtain rfl := Number.natural.inj (Option.some.inj hx)
        refine ⟨?_, hfits⟩
        simp only [Numeral.written, Numeral.unsigned, hsign, hfraction, hexponent, writtenFraction,
          writtenExponent, Bool.false_eq_true, if_false, if_true, List.append_nil]
        exact isWhole_iff.mp hl.whole
    · simp at hx
  · rintro ⟨rfl, hn⟩
    exact @spellsNumber_integer true n hn

end TestLocator.Json
