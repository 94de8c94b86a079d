import Mathlib.Data.List.Basic
import TestLocator.Json.Reader

/-!
# Ways to write a string

A character of a string stands for itself, or it is written by a letter or by numbers of base
sixteen behind a backslash.

* `SpellsUnit`, `letterEscapes`, `SpellsChar`, `SpellsString` — a text is a number of four digits, a
  character, a string;
* `readEscape_of_spells`, **`readString_of_spells`** — what is a string is read as that string;
* `spells_of_readEscape`, **`spells_of_readString`** — and nothing else is read.
-/

namespace TestLocator.Json

open TestLocator.Text

/-- A text is a number: four digits of base sixteen. -/
inductive SpellsUnit : Nat → List Char → Prop
  | digits {a b c d : Char} {i j k l : Nat} : hexValue? a = some i → hexValue? b = some j →
    hexValue? c = some k → hexValue? d = some l →
    SpellsUnit (((i * 16 + j) * 16 + k) * 16 + l) [a, b, c, d]

/-- The letters that stand for characters behind a backslash. -/
def letterEscapes : List (Char × Char) :=
  [('"', '"'), ('\\', '\\'), ('/', '/'), ('b', '\x08'), ('f', '\x0c'), ('n', '\n'), ('r', '\r'),
    ('t', '\t')]

/-- A text is a character of a string. -/
inductive SpellsChar : Char → List Char → Prop
  | plain {c : Char} : c ≠ '"' → c ≠ '\\' → ¬ c < ' ' → SpellsChar c [c]
  | letter {l c : Char} : (l, c) ∈ letterEscapes → SpellsChar c ['\\', l]
  | unit {n : Nat} {w : List Char} : SpellsUnit n w → isHighSurrogate n = false →
    isLowSurrogate n = false → SpellsChar (Char.ofNat n) ('\\' :: 'u' :: w)
  /-- A character beyond `65535` is the pair of two numbers. -/
  | pair {n m : Nat} {w x : List Char} : SpellsUnit n w → SpellsUnit m x →
    isHighSurrogate n = true → isLowSurrogate m = true →
    SpellsChar (Char.ofNat ((n - 0xD800) * 0x400 + (m - 0xDC00) + 0x10000))
      ('\\' :: 'u' :: (w ++ '\\' :: 'u' :: x))

/-- A text is a string, without the quotes around it. -/
inductive SpellsString : List Char → List Char → Prop
  | nil : SpellsString [] []
  | cons {c : Char} {cs w ws : List Char} : SpellsChar c w → SpellsString cs ws →
    SpellsString (c :: cs) (w ++ ws)

/-! ## Numbers of base sixteen -/

theorem length_of_spellsUnit {n : Nat} {w : List Char} (h : SpellsUnit n w) : w.length = 4 := by
  cases h
  rfl

theorem length_le_byteLength (cs : List Char) : cs.length ≤ byteLength cs := by
  have hfold : ∀ n, n + cs.length ≤ cs.foldl (fun n c => n + c.utf8Size) n := by
    induction cs with
    | nil => exact fun n => Nat.le_refl n
    | cons c cs ih =>
      intro n
      have hpos := c.utf8Size_pos
      have hrest := ih (n + c.utf8Size)
      rw [List.length_cons, List.foldl_cons]
      omega
  simpa [byteLength] using hfold 0

theorem readUnit_of_spells {n : Nat} {w : List Char} (h : SpellsUnit n w) (rest : List Char) :
    readUnit (w ++ rest) = .ok n := by
  have hlength := length_of_spellsUnit h
  have htake : (w ++ rest).take 4 = w := by rw [← hlength, List.take_left]
  have hbytes := length_le_byteLength w
  rw [readUnit, htake, if_neg (by omega)]
  obtain ⟨ha, hb, hc, hd⟩ := h
  simp [ha, hb, hc, hd]

theorem exists_cons_of_mapM {α β : Type} {f : α → Option β} {xs : List α} {y : β} {ys : List β}
    (h : xs.mapM f = some (y :: ys)) :
    ∃ x rest, xs = x :: rest ∧ f x = some y ∧ rest.mapM f = some ys := by
  cases xs with
  | nil => simp at h
  | cons x rest =>
    simp only [List.mapM_cons, Option.bind_eq_bind, Option.bind_eq_some_iff, Option.pure_def,
      Option.some.injEq, List.cons.injEq] at h
    obtain ⟨z, hz, zs, hzs, rfl, rfl⟩ := h
    exact ⟨x, rest, rfl, hz, hzs⟩

theorem eq_nil_of_mapM {α β : Type} {f : α → Option β} {xs : List α} (h : xs.mapM f = some []) :
    xs = [] := by
  cases xs with
  | nil => rfl
  | cons x rest => simp [Option.bind_eq_some_iff] at h

theorem spells_of_readUnit {n : Nat} {cs : List Char} (h : readUnit cs = .ok n) :
    SpellsUnit n (cs.take 4) := by
  unfold readUnit at h
  split_ifs at h
  split at h
  · next i j k l hdigits =>
    cases h
    obtain ⟨a, as, ha, hi, hdigits⟩ := exists_cons_of_mapM hdigits
    obtain ⟨b, bs, rfl, hj, hdigits⟩ := exists_cons_of_mapM hdigits
    obtain ⟨c, cs, rfl, hk, hdigits⟩ := exists_cons_of_mapM hdigits
    obtain ⟨d, ds, rfl, hl, hdigits⟩ := exists_cons_of_mapM hdigits
    obtain rfl := eq_nil_of_mapM hdigits
    exact ha ▸ .digits hi hj hk hl
  · cases h

/-! ## Characters -/

theorem readLowSurrogate_of_spells {m : Nat} {x : List Char} (h : SpellsUnit m x)
    (hlow : isLowSurrogate m = true) (rest : List Char) :
    readLowSurrogate ('\\' :: 'u' :: (x ++ rest)) = .ok m := by
  simp only [readLowSurrogate, readUnit_of_spells h, hlow, if_true]

theorem spells_of_readLowSurrogate {m : Nat} {cs : List Char} (h : readLowSurrogate cs = .ok m) :
    ∃ x, cs.take 6 = '\\' :: 'u' :: x ∧ SpellsUnit m x ∧ isLowSurrogate m = true := by
  unfold readLowSurrogate at h
  split at h
  · cases h
  · split at h
    · cases h
    · next digits =>
      split at h
      · cases h
      · next n hn =>
        split_ifs at h with hlow
        cases h
        exact ⟨digits.take 4, rfl, spells_of_readUnit hn, hlow⟩
    · cases h
  · cases h

theorem readEscape_of_spells {c : Char} {w : List Char} (h : SpellsChar c ('\\' :: w))
    (rest : List Char) : readEscape (w ++ rest) = .ok (c, w.length) := by
  cases h with
  | plain _ hslash _ => exact absurd rfl hslash
  | letter hmem =>
    simp only [letterEscapes, List.mem_cons, Prod.mk.injEq, List.not_mem_nil, or_false] at hmem
    rcases hmem with ⟨rfl, rfl⟩ | ⟨rfl, rfl⟩ | ⟨rfl, rfl⟩ | ⟨rfl, rfl⟩ | ⟨rfl, rfl⟩ | ⟨rfl, rfl⟩ |
      ⟨rfl, rfl⟩ | ⟨rfl, rfl⟩ <;> rfl
  | @unit n w hunit hhigh hlow =>
    simp only [List.cons_append, readEscape, readCodeEscape, readUnit_of_spells hunit, hhigh, hlow,
      Bool.false_eq_true, if_false, Except.map, List.length_cons, length_of_spellsUnit hunit]
  | @pair n m w x hunit hunit' hhigh hlow =>
    have hlength := length_of_spellsUnit hunit
    have hdrop : (w ++ '\\' :: 'u' :: (x ++ rest)).drop 4 = '\\' :: 'u' :: (x ++ rest) := by
      rw [← hlength, List.drop_left]
    have hfirst : isLowSurrogate n = false := by
      simp only [isHighSurrogate, isLowSurrogate, decide_eq_true_eq, decide_eq_false_iff_not] at *
      omega
    simp only [List.cons_append, List.append_assoc, readEscape, readCodeEscape,
      readUnit_of_spells hunit, hdrop, readLowSurrogate_of_spells hunit' hlow, hhigh, hfirst,
      Bool.false_eq_true, if_false, if_true, Except.map, List.length_cons, List.length_append,
      hlength, length_of_spellsUnit hunit']

theorem spells_of_readCodeEscape {c : Char} {n : Nat} {cs : List Char}
    (h : readCodeEscape cs = .ok (c, n)) : SpellsChar c ('\\' :: 'u' :: cs.take n) := by
  unfold readCodeEscape at h
  split at h
  · cases h
  · next first hfirst =>
    split_ifs at h with hlow hhigh
    · split at h
      · cases h
      · next m hm =>
        obtain ⟨rfl, rfl⟩ := Prod.mk.inj (Except.ok.inj h)
        obtain ⟨x, hx, hunit, hlow'⟩ := spells_of_readLowSurrogate hm
        -- the second number is behind the first
        have htake : cs.take 10 = cs.take 4 ++ '\\' :: 'u' :: x := by
          rw [← hx, ← List.take_add]
        rw [htake]
        exact .pair (spells_of_readUnit hfirst) hunit hhigh hlow'
    · cases h
      exact .unit (spells_of_readUnit hfirst) (Bool.eq_false_iff.mpr hhigh)
        (Bool.eq_false_iff.mpr hlow)

theorem spells_of_readEscape {c : Char} {n : Nat} {cs : List Char}
    (h : readEscape cs = .ok (c, n)) : SpellsChar c ('\\' :: cs.take n) := by
  unfold readEscape at h
  split at h
  · cases h
  · next rest =>
    cases hcode : readCodeEscape rest with
    | error e => simp [hcode, Except.map] at h
    | ok p =>
      rw [hcode] at h
      cases h
      exact spells_of_readCodeEscape hcode
  · next l rest _ =>
    split at h
    all_goals first
      | (cases h; exact .letter (by decide))
      | cases h

/-! ## Strings -/

theorem readString_of_char {c : Char} {w : List Char} (h : SpellsChar c w) (done rest : List Char) :
    readString done (w ++ rest) = readString (c :: done) rest := by
  have hescape : ∀ x, w = '\\' :: x →
      readString done (w ++ rest) = readString (c :: done) rest := by
    rintro x rfl
    rw [List.cons_append, readString]
    simp only [readEscape_of_spells h, List.drop_left]
  cases h with
  | plain hquote hslash hcontrol =>
    rw [List.singleton_append, readString, if_neg hcontrol]
    · exact hquote
    · exact hslash
  | letter hmem => exact hescape _ rfl
  | unit _ _ _ => exact hescape _ rfl
  | pair _ _ _ _ => exact hescape _ rfl

/-- **What is a string is read as that string**, up to the quote behind it. -/
theorem readString_of_spells {cs w : List Char} (h : SpellsString cs w) (done rest : List Char) :
    readString done (w ++ '"' :: rest) = .ok (done.reverse ++ cs, rest) := by
  induction h generalizing done with
  | nil => rw [List.nil_append, readString, List.append_nil]
  | cons hchar _ ih =>
    rw [List.append_assoc, readString_of_char hchar, ih, List.reverse_cons, List.append_assoc]
    rfl

/-- **Nothing else is read.** -/
theorem spells_of_readString {done cs s rest : List Char} (h : readString done cs = .ok (s, rest)) :
    ∃ string w, s = done.reverse ++ string ∧ cs = w ++ '"' :: rest ∧ SpellsString string w := by
  fun_induction readString done cs with
  | case1 => cases h
  | case2 done rest =>
    cases h
    exact ⟨[], [], (List.append_nil _).symm, rfl, .nil⟩
  | case3 => cases h
  | case4 done cs c n hescape ih =>
    obtain ⟨string, w, hs, hcs, hstring⟩ := ih h
    refine ⟨c :: string, '\\' :: cs.take n ++ w, ?_, ?_,
      .cons (spells_of_readEscape hescape) hstring⟩
    · rw [hs, List.reverse_cons, List.append_assoc, List.singleton_append]
    · rw [List.append_assoc, ← hcs, List.cons_append, List.take_append_drop]
  | case5 => cases h
  | case6 done c cs hquote hslash hcontrol ih =>
    obtain ⟨string, w, hs, hcs, hstring⟩ := ih h
    refine ⟨c :: string, [c] ++ w, ?_, ?_, .cons (.plain ?_ ?_ hcontrol) hstring⟩
    · rw [hs, List.reverse_cons, List.append_assoc, List.singleton_append]
    · rw [hcs, List.append_assoc, List.singleton_append]
    · exact hquote
    · exact hslash

end TestLocator.Json
