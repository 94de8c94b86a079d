import TestLocator.Text.Bytes

/-!
# ASCII characters among bytes

A byte below `128` in a text stands for itself and is never a part of another character.

* `encode_cons`, `encode_append`, `encode_ascii`, `encode_injective` — the bytes of a text;
* `eq_of_utf8EncodeChar_append` — its first character;
* `toNat_eq_of_mem_utf8EncodeChar` — where a byte below `128` comes from;
* `notMem_encode`, `count_encode` — such a character is among the bytes as often as in the text.
-/

namespace TestLocator.Text

theorem encode_cons (c : Char) (cs : List Char) :
    encode (c :: cs) = String.utf8EncodeChar c ++ encode cs := rfl

theorem encode_append (cs ds : List Char) : encode (cs ++ ds) = encode cs ++ encode ds :=
  List.flatMap_append

theorem encode_injective {cs ds : List Char} (h : encode cs = encode ds) : cs = ds :=
  Option.some.inj (by rw [← decode?_encode cs, h, decode?_encode ds])

theorem encode_ascii {c : Char} (h : c.toNat < 128) (cs : List Char) :
    encode (c :: cs) = UInt8.ofNat c.toNat :: encode cs := by
  have hle : c.val.toNat ≤ 127 := Nat.le_of_lt_succ h
  rw [encode_cons, String.utf8EncodeChar, if_pos hle]
  rfl

theorem eq_of_utf8EncodeChar_append {c d : Char} {bs cs : Bytes}
    (h : String.utf8EncodeChar c ++ bs = String.utf8EncodeChar d ++ cs) : c = d := by
  have hdecode := congrArg (fun bytes : Bytes => bytes.toByteArray.utf8DecodeChar? 0) h
  simp only [List.toByteArray_append, ByteArray.utf8DecodeChar?_utf8EncodeChar_append] at hdecode
  exact Option.some.inj hdecode

/-- **A byte below `128`** comes from the character of that number alone. -/
theorem toNat_eq_of_mem_utf8EncodeChar {c : Char} {b : UInt8} (h : b ∈ String.utf8EncodeChar c)
    (hb : b.toNat < 128) : c.toNat = b.toNat := by
  have hlow : ∀ n, n < 256 → b = UInt8.ofNat n → b.toNat = n := by
    rintro n hn rfl
    exact UInt8.toNat_ofNat_of_lt' hn
  -- all bytes but those of the first case are at least `128`
  unfold String.utf8EncodeChar at h
  simp only at h
  split at h
  · exact (hlow _ (by omega) (List.mem_singleton.mp h)).symm
  · exfalso
    split at h
    · simp only [List.mem_cons, List.not_mem_nil, or_false] at h
      rcases h with h | h <;> have := hlow _ (by omega) h <;> omega
    · split at h
      · simp only [List.mem_cons, List.not_mem_nil, or_false] at h
        rcases h with h | h | h <;> have := hlow _ (by omega) h <;> omega
      · simp only [List.mem_cons, List.not_mem_nil, or_false] at h
        rcases h with h | h | h | h <;> have := hlow _ (by omega) h <;> omega

theorem notMem_encode {c : Char} (hc : c.toNat < 128) {cs : List Char} (h : c ∉ cs) :
    UInt8.ofNat c.toNat ∉ encode cs := by
  have hnat : (UInt8.ofNat c.toNat).toNat = c.toNat :=
    UInt8.toNat_ofNat_of_lt' (Nat.lt_trans hc (by decide))
  intro hmem
  obtain ⟨d, hd, hb⟩ := List.mem_flatMap.mp hmem
  have heq := toNat_eq_of_mem_utf8EncodeChar hb (by rw [hnat]; exact hc)
  rw [hnat] at heq
  exact h (Char.toNat_inj.mp heq ▸ hd)

/-- **A character below `128`** is among the bytes of a text as often as in the text. -/
theorem count_encode {c : Char} (hc : c.toNat < 128) (cs : List Char) :
    (encode cs).count (UInt8.ofNat c.toNat) = cs.count c := by
  induction cs with
  | nil => rfl
  | cons d cs ih =>
    by_cases hd : d = c
    · subst hd
      rw [encode_ascii hc, List.count_cons_self, List.count_cons_self, ih]
    · have hno : c ∉ [d] := fun hmem => hd (List.mem_singleton.mp hmem).symm
      have hbytes : encode (d :: cs) = encode [d] ++ encode cs := encode_append [d] cs
      rw [hbytes, List.count_append, List.count_eq_zero_of_not_mem (notMem_encode hc hno), ih,
        List.count_cons_of_ne hd, Nat.zero_add]

end TestLocator.Text
