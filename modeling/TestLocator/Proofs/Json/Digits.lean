import Mathlib.Data.List.TakeWhile
import TestLocator.Json.Reader

/-!
# Digits

* `AreDigits`, `valueOf`, `EndsDigits`, `exists_digits` — digits in front of a text;
* `IsWhole`, **`isWhole_iff`** — whole numbers are the natural numbers as they are usually written;
* `takeDigits_of_lt`, `takeDigits_of_le` — digits are all taken exactly if the number fits into 64
  bits.
-/

namespace TestLocator.Json

/-- All characters of a text are digits. -/
def AreDigits (cs : List Char) : Prop := ∀ c ∈ cs, isDigit c

instance : DecidablePred AreDigits := List.decidableBAll fun c => isDigit c

/-- The number that some digits tell. -/
def valueOf (digits : List Char) : Nat := Nat.ofDigitChars 10 digits 0

/-- No digit comes next. -/
def EndsDigits (cs : List Char) : Prop := ∀ c ∈ cs.head?, ¬ isDigit c

/-- A text is a whole number: there is no zero in front of other digits. -/
inductive IsWhole : List Char → Prop
  | zero : IsWhole ['0']
  | digits {c : Char} {cs : List Char} : isDigit c → c ≠ '0' → AreDigits cs → IsWhole (c :: cs)

/-! ## Digits -/

theorem isDigit_iff {c : Char} : isDigit c ↔ 48 ≤ c.toNat ∧ c.toNat ≤ 57 := by
  rw [isDigit, decide_eq_true_eq, Char.le_def, Char.le_def, UInt32.le_iff_toNat_le,
    UInt32.le_iff_toNat_le]
  rfl

theorem startsWithDigit_eq_false_iff {cs : List Char} :
    startsWithDigit cs = false ↔ EndsDigits cs := by
  cases cs <;> simp [startsWithDigit, EndsDigits]

theorem startsWithDigit_append {ds rest : List Char} (hds : AreDigits ds)
    (hrest : EndsDigits rest) :
    startsWithDigit (ds ++ rest) = !ds.isEmpty := by
  cases ds with
  | nil => exact startsWithDigit_eq_false_iff.mpr hrest
  | cons d ds => exact hds d List.mem_cons_self

theorem takeWhile_digits {ds rest : List Char} (hds : AreDigits ds) (hrest : EndsDigits rest) :
    (ds ++ rest).takeWhile isDigit = ds := by
  rw [List.takeWhile_append_of_pos hds]
  cases rest with
  | nil => exact List.append_nil ds
  | cons c rest => rw [List.takeWhile_cons_of_neg (hrest c rfl), List.append_nil]

/-- The digits in front of a text. -/
theorem exists_digits (cs : List Char) :
    ∃ ds rest, cs = ds ++ rest ∧ AreDigits ds ∧ EndsDigits rest := by
  refine ⟨cs.takeWhile isDigit, cs.dropWhile isDigit, List.takeWhile_append_dropWhile.symm,
    fun c hc => List.mem_takeWhile_imp hc, fun c hc => ?_⟩
  have hhead := List.head?_dropWhile_not isDigit cs
  rw [Option.mem_def.mp hc] at hhead
  exact Bool.not_eq_true _ ▸ hhead

theorem digits_append_inj {ds ds' rest rest' : List Char} (hds : AreDigits ds)
    (hds' : AreDigits ds') (hrest : EndsDigits rest) (hrest' : EndsDigits rest')
    (h : ds ++ rest = ds' ++ rest') : ds = ds' ∧ rest = rest' := by
  have htake := congrArg (List.takeWhile isDigit) h
  rw [takeWhile_digits hds hrest, takeWhile_digits hds' hrest'] at htake
  subst htake
  exact ⟨rfl, List.append_cancel_left h⟩

theorem toDigits_inj {m n : Nat} (h : Nat.toDigits 10 m = Nat.toDigits 10 n) : m = n := by
  rw [← Nat.ofDigitChars_ten_toDigits (n := m), h, Nat.ofDigitChars_ten_toDigits]

theorem digitChar_toNat {c : Char} (h : isDigit c) : Nat.digitChar (c.toNat - 48) = c := by
  have hc := isDigit_iff.mp h
  refine Char.toNat_inj.mp ?_
  rw [Nat.toNat_digitChar_of_lt_ten (by omega)]
  omega

theorem ofDigitChars_cons (d : Char) (ds : List Char) (n : Nat) :
    Nat.ofDigitChars 10 (d :: ds) n = Nat.ofDigitChars 10 ds (n * 10 + (d.toNat - 48)) := by
  rw [Nat.ofDigitChars_cons, Nat.mul_comm]
  rfl

theorem toDigits_append {n : Nat} {ds : List Char} (hn : 0 < n) (hds : AreDigits ds) :
    Nat.toDigits 10 n ++ ds = Nat.toDigits 10 (Nat.ofDigitChars 10 ds n) := by
  induction ds generalizing n with
  | nil => rw [List.append_nil, Nat.ofDigitChars_nil]
  | cons d ds ih =>
    obtain ⟨hd, hds⟩ := List.forall_mem_cons.mp hds
    have hsize := isDigit_iff.mp hd
    have hlast : Nat.toDigits 10 (d.toNat - 48) = [d] := by
      rw [Nat.toDigits_of_lt_base (by omega), digitChar_toNat hd]
    have hfront := Nat.toDigits_append_toDigits (b := 10) (d := d.toNat - 48) (by decide) hn
      (by omega)
    rw [hlast, Nat.mul_comm] at hfront
    rw [ofDigitChars_cons, ← List.singleton_append, ← List.append_assoc, hfront]
    exact ih (by omega) hds

theorem IsWhole.areDigits {w : List Char} (h : IsWhole w) : AreDigits w := by
  cases h with
  | zero => decide
  | digits hc _ hcs => exact List.forall_mem_cons.mpr ⟨hc, hcs⟩

theorem areDigits_toDigits (n : Nat) : AreDigits (Nat.toDigits 10 n) := fun c hc => by
  have hdigit := Nat.isDigit_of_mem_toDigits (by decide) (by decide) hc
  rw [Char.isDigit, Bool.and_eq_true, decide_eq_true_eq, decide_eq_true_eq] at hdigit
  exact isDigit_iff.mpr hdigit

theorem exists_cons_toDigits {n : Nat} (hn : 0 < n) :
    ∃ c cs, Nat.toDigits 10 n = c :: cs ∧ c ≠ '0' := by
  induction n using Nat.strongRecOn with
  | ind n ih =>
    by_cases hsmall : n < 10
    · refine ⟨n.digitChar, [], Nat.toDigits_of_lt_base hsmall, fun hzero => ?_⟩
      have hsize := Nat.toNat_digitChar_of_lt_ten hsmall
      rw [hzero] at hsize
      have h48 : '0'.toNat = 48 := rfl
      omega
    · obtain ⟨c, cs, hcs, hc⟩ := ih (n / 10) (by omega) (by omega)
      refine ⟨c, cs ++ [(n % 10).digitChar], ?_, hc⟩
      rw [Nat.toDigits_of_base_le (by decide) (by omega), hcs, List.cons_append]

theorem isWhole_toDigits (n : Nat) : IsWhole (Nat.toDigits 10 n) := by
  by_cases hn : n = 0
  · rw [hn, Nat.toDigits_zero]
    exact .zero
  · obtain ⟨c, cs, hcs, hc⟩ := exists_cons_toDigits (Nat.pos_of_ne_zero hn)
    obtain ⟨hdigit, hdigits⟩ := List.forall_mem_cons.mp (hcs ▸ areDigits_toDigits n)
    rw [hcs]
    exact .digits hdigit hc hdigits

/-- **The whole numbers** are the natural numbers as they are usually written. -/
theorem isWhole_iff {w : List Char} : IsWhole w ↔ w = Nat.toDigits 10 (valueOf w) := by
  constructor
  · rintro (_ | @⟨c, cs, hc, hzero, hcs⟩)
    · rfl
    · have hsize := isDigit_iff.mp hc
      have hne : c.toNat ≠ 48 := fun h => hzero (Char.toNat_inj.mp h)
      have hfirst : Nat.toDigits 10 (c.toNat - 48) = [c] := by
        rw [Nat.toDigits_of_lt_base (by omega), digitChar_toNat hc]
      have hall := toDigits_append (n := c.toNat - 48) (by omega) hcs
      rw [hfirst, List.singleton_append] at hall
      rw [valueOf, ofDigitChars_cons, Nat.zero_mul, Nat.zero_add]
      exact hall
  · intro h
    rw [h]
    exact isWhole_toDigits _

/-! ## Digits that fit into 64 bits -/

theorem takeDigits_of_ends {cs : List Char} (h : EndsDigits cs) (n k : Nat) :
    takeDigits n k cs = (n, k, cs) := by
  cases cs with
  | nil => rfl
  | cons c cs => rw [takeDigits, if_neg fun hc => h c rfl hc.1]

theorem takeDigits_append {ds rest : List Char} (hds : AreDigits ds) (hrest : EndsDigits rest)
    (n k : Nat) : takeDigits n k (ds ++ rest) =
      ((takeDigits n k ds).1, (takeDigits n k ds).2.1, (takeDigits n k ds).2.2 ++ rest) := by
  induction ds generalizing n k with
  | nil => exact takeDigits_of_ends hrest n k
  | cons d ds ih =>
    obtain ⟨hd, hds⟩ := List.forall_mem_cons.mp hds
    rw [List.cons_append, takeDigits, takeDigits]
    split_ifs
    · exact ih hds _ _
    · rfl

theorem takeDigits_isSuffix (ds : List Char) (n k : Nat) : (takeDigits n k ds).2.2 <:+ ds := by
  fun_induction takeDigits n k ds with
  | case1 n k => exact List.suffix_refl _
  | case2 n k d ds next hd ih => exact ih.trans (List.suffix_cons d ds)
  | case3 n k d ds => exact List.suffix_refl _

theorem takeDigits_count (ds : List Char) (n k : Nat) :
    takeDigits n (k + 1) ds =
      ((takeDigits n k ds).1, (takeDigits n k ds).2.1 + 1, (takeDigits n k ds).2.2) := by
  fun_induction takeDigits n k ds with
  | case1 n k => rfl
  | case2 n k d ds next hd ih => rw [takeDigits, if_pos hd, ih]
  | case3 n k d ds next hd => rw [takeDigits, if_neg hd]

theorem le_ofDigitChars (ds : List Char) (n : Nat) : n ≤ Nat.ofDigitChars 10 ds n := by
  rw [Nat.ofDigitChars_eq_ofDigitChars_zero]
  exact (Nat.le_mul_of_pos_left n (Nat.pow_pos (by decide))).trans (Nat.le_add_right _ _)

/-- All digits are taken if the number fits. -/
theorem takeDigits_of_lt {ds : List Char} (hds : AreDigits ds) {n : Nat}
    (h : Nat.ofDigitChars 10 ds n < Nat.pow 2 64) (k : Nat) :
    takeDigits n k ds = (Nat.ofDigitChars 10 ds n, k + ds.length, []) := by
  induction ds generalizing n k with
  | nil => rfl
  | cons d ds ih =>
    obtain ⟨hd, hds⟩ := List.forall_mem_cons.mp hds
    rw [ofDigitChars_cons] at h ⊢
    have hnext : n * 10 + (d.toNat - 48) < Nat.pow 2 64 := (le_ofDigitChars ds _).trans_lt h
    rw [takeDigits, if_pos ⟨hd, hnext⟩, ih hds h, List.length_cons, Nat.add_assoc,
      Nat.add_comm 1]

/-- Some digits are left if the number does not fit. -/
theorem takeDigits_of_le {ds : List Char} {n : Nat} (hn : n < Nat.pow 2 64)
    (h : Nat.pow 2 64 ≤ Nat.ofDigitChars 10 ds n) (k : Nat) : (takeDigits n k ds).2.2 ≠ [] := by
  induction ds generalizing n k with
  | nil =>
    rw [Nat.ofDigitChars_nil] at h
    exact absurd h (Nat.not_le.mpr hn)
  | cons d ds ih =>
    rw [ofDigitChars_cons] at h
    rw [takeDigits]
    split_ifs with hd
    · exact ih hd.2 h _
    · exact List.cons_ne_nil d ds

end TestLocator.Json
