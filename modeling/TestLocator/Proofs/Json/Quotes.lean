import TestLocator.Proofs.Json.Spelling

/-!
# Quotes in pairs

* `Quotes`, `Quotes.append`, `Quotes.unique` — how many quotes there are in a text, those behind a
  backslash aside;
* `quotes_of_spellsString`, `quotes_of_spellsNumber` — there is none in a string and in a number;
* **`pairedQuotes_of_spells`** — in a value there is an even number of them.
-/

namespace TestLocator.Json

/-- A text consists of a number of quotes, of escapes and of other characters. No escape is one of a
single quote. -/
inductive Quotes : Nat → List Char → Prop
  | nil : Quotes 0 []
  | quote {n : Nat} {cs : List Char} : Quotes n cs → Quotes (n + 1) ('"' :: cs)
  | escape {n : Nat} {c : Char} {cs : List Char} : c ≠ '\'' → Quotes n cs →
    Quotes n ('\\' :: c :: cs)
  | other {n : Nat} {c : Char} {cs : List Char} : c ≠ '"' → c ≠ '\\' → Quotes n cs →
    Quotes n (c :: cs)

variable {m n : Nat} {c : Char} {cs ds w : List Char}

theorem Quotes.append (hcs : Quotes m cs) (hds : Quotes n ds) : Quotes (m + n) (cs ++ ds) := by
  induction hcs with
  | nil => rwa [Nat.zero_add, List.nil_append]
  | quote _ ih =>
    rw [Nat.add_right_comm]
    exact .quote ih
  | escape hc _ ih => exact .escape hc ih
  | other hquote hslash _ ih => exact .other hquote hslash ih

/-- A text has one number of quotes. -/
theorem Quotes.unique (hm : Quotes m cs) (hn : Quotes n cs) : m = n := by
  induction hm generalizing n with
  | nil =>
    cases hn
    rfl
  | quote _ ih =>
    cases hn with
    | quote hn => rw [ih hn]
    | other hquote _ _ => contradiction
  | escape _ _ ih =>
    cases hn with
    | escape _ hn => exact ih hn
    | other _ hslash _ => contradiction
  | other hquote hslash _ ih =>
    cases hn with
    | quote _ => contradiction
    | escape _ _ => contradiction
    | other _ _ hn => exact ih hn

theorem quotes_of_forall (h : ∀ c ∈ cs, c ≠ '"' ∧ c ≠ '\\') : Quotes 0 cs := by
  induction cs with
  | nil => exact .nil
  | cons c cs ih =>
    obtain ⟨⟨hquote, hslash⟩, hcs⟩ := List.forall_mem_cons.mp h
    exact .other hquote hslash (ih hcs)

/-! ## Strings and numbers -/

theorem quotes_of_hexValue {i : Nat} (h : hexValue? c = some i) (hcs : Quotes n cs) :
    Quotes n (c :: cs) := by
  refine .other ?_ ?_ hcs
  · rintro rfl
    exact absurd h nofun
  · rintro rfl
    exact absurd h nofun

theorem quotes_of_spellsUnit (h : SpellsUnit m w) : Quotes 0 w := by
  obtain ⟨ha, hb, hc, hd⟩ := h
  exact quotes_of_hexValue ha (quotes_of_hexValue hb (quotes_of_hexValue hc
    (quotes_of_hexValue hd .nil)))

theorem quotes_of_spellsChar (h : SpellsChar c w) : Quotes 0 w := by
  cases h with
  | plain hquote hslash _ => exact .other hquote hslash .nil
  | letter hl =>
    have hletters : ∀ l ∈ letterEscapes, l.1 ≠ '\'' := by decide
    exact .escape (hletters _ hl) .nil
  | unit hw _ _ => exact .escape (by decide) (quotes_of_spellsUnit hw)
  | pair hw hx _ _ =>
    exact .escape (by decide)
      ((quotes_of_spellsUnit hw).append (.escape (by decide) (quotes_of_spellsUnit hx)))

theorem quotes_of_spellsString (h : SpellsString cs w) : Quotes 0 w := by
  induction h with
  | nil => exact .nil
  | cons hc _ ih => exact (quotes_of_spellsChar hc).append ih

theorem quotes_of_areDigits (h : AreDigits cs) : Quotes 0 cs :=
  quotes_of_forall fun _ hc => ⟨ne_of_isDigit (h _ hc) rfl, ne_of_isDigit (h _ hc) rfl⟩

theorem quotes_of_exponent {e : Exponent} (he : e.WellFormed) : Quotes 0 (e.letter :: e.body) := by
  have hsign : Quotes 0 e.sign := by
    obtain h | h | h := he.sign <;> rw [h] <;> exact quotes_of_forall (by simp)
  have hbody : Quotes 0 e.body := hsign.append (quotes_of_areDigits he.digits)
  obtain h | h := he.letter <;> rw [h] <;> exact .other (by decide) (by decide) hbody

theorem quotes_of_numeral {l : Numeral} (hl : l.WellFormed) : Quotes 0 l.written := by
  have hfraction : Quotes 0 (writtenFraction l.fraction) := by
    unfold writtenFraction
    split_ifs
    · exact .nil
    · exact .other (by decide) (by decide) (quotes_of_areDigits hl.fraction)
  have hexponent : Quotes 0 (writtenExponent l.exponent) := by
    cases h : l.exponent with
    | none => exact .nil
    | some e => exact quotes_of_exponent (hl.exponent e h)
  have hunsigned : Quotes 0 l.unsigned :=
    (quotes_of_areDigits hl.whole.areDigits).append (hfraction.append hexponent)
  unfold Numeral.written
  split_ifs
  · exact .other (by decide) (by decide) hunsigned
  · exact hunsigned

theorem quotes_of_spellsNumber {x : Number} (h : SpellsNumber x w) : Quotes 0 w := by
  obtain ⟨l, hl, rfl, -⟩ := h
  exact quotes_of_numeral hl

/-! ## Values -/

/-- The quotes of a text come in pairs. -/
def PairedQuotes (cs : List Char) : Prop := ∃ n, Quotes (2 * n) cs

theorem Quotes.paired (h : Quotes 0 cs) : PairedQuotes cs := ⟨0, h⟩

theorem PairedQuotes.append (hcs : PairedQuotes cs) (hds : PairedQuotes ds) :
    PairedQuotes (cs ++ ds) := by
  obtain ⟨m, hm⟩ := hcs
  obtain ⟨n, hn⟩ := hds
  exact ⟨m + n, Nat.mul_add .. ▸ hm.append hn⟩

theorem PairedQuotes.cons (hcs : PairedQuotes cs) (hquote : c ≠ '"') (hslash : c ≠ '\\') :
    PairedQuotes (c :: cs) := by
  obtain ⟨n, hn⟩ := hcs
  exact ⟨n, .other hquote hslash hn⟩

theorem AreGaps.pairedQuotes (h : AreGaps cs) : PairedQuotes cs := by
  refine Quotes.paired (quotes_of_forall fun c hc => ?_)
  constructor <;> rintro rfl <;> exact absurd (h _ hc) (by decide)

theorem pairedQuotes_string (h : SpellsString cs w) (hds : PairedQuotes ds) :
    PairedQuotes ('"' :: (w ++ '"' :: ds)) := by
  obtain ⟨n, hn⟩ := hds
  have hrest : Quotes (2 * n + 1) (w ++ '"' :: ds) :=
    Nat.zero_add (2 * n + 1) ▸ (quotes_of_spellsString h).append (.quote hn)
  exact ⟨n + 1, .quote hrest⟩

mutual

/-- **The quotes of a value come in pairs.** -/
theorem pairedQuotes_of_spells {levels : Nat} {v : Value} {w : List Char} (h : Spells levels v w) :
    PairedQuotes w := by
  match h with
  | .null => exact (quotes_of_forall (by simp)).paired
  | .yes => exact (quotes_of_forall (by simp)).paired
  | .no => exact (quotes_of_forall (by simp)).paired
  | .number hx => exact (quotes_of_spellsNumber hx).paired
  | .string hs => exact pairedQuotes_string hs Quotes.nil.paired
  | .array hg hvs =>
    have hend : PairedQuotes [']'] := Quotes.nil.paired.cons (by decide) (by decide)
    exact (hg.pairedQuotes.append ((pairedQuotes_of_items hvs).append hend)).cons (by decide)
      (by decide)
  | .object hg hms =>
    have hend : PairedQuotes ['\x7d'] := Quotes.nil.paired.cons (by decide) (by decide)
    exact (hg.pairedQuotes.append ((pairedQuotes_of_members hms).append hend)).cons (by decide)
      (by decide)
termination_by structural h

theorem pairedQuotes_of_items {levels : Nat} {vs : List Value} {w : List Char}
    (h : SpellsItems levels vs w) : PairedQuotes w := by
  match h with
  | .nil => exact Quotes.nil.paired
  | .last hx hg => exact (pairedQuotes_of_spells hx).append hg.pairedQuotes
  | .cons hx hg hg' _ hw =>
    have hmore := (hg'.pairedQuotes.append (pairedQuotes_of_items hw)).cons (c := ',') (by decide)
      (by decide)
    exact (pairedQuotes_of_spells hx).append (hg.pairedQuotes.append hmore)
termination_by structural h

theorem pairedQuotes_of_member {levels : Nat} {m : String × Value} {w : List Char}
    (h : SpellsMember levels m w) : PairedQuotes w := by
  match h with
  | .intro hs hg hg' hx =>
    have hvalue := (hg'.pairedQuotes.append (pairedQuotes_of_spells hx)).cons (c := ':') (by decide)
      (by decide)
    exact pairedQuotes_string hs (hg.pairedQuotes.append hvalue)
termination_by structural h

theorem pairedQuotes_of_members {levels : Nat} {ms : List (String × Value)} {w : List Char}
    (h : SpellsMembers levels ms w) : PairedQuotes w := by
  match h with
  | .nil => exact Quotes.nil.paired
  | .last hm hg => exact (pairedQuotes_of_member hm).append hg.pairedQuotes
  | .cons hm hg hg' _ hw =>
    have hmore := (hg'.pairedQuotes.append (pairedQuotes_of_members hw)).cons (c := ',') (by decide)
      (by decide)
    exact (pairedQuotes_of_member hm).append (hg.pairedQuotes.append hmore)
termination_by structural h

end

theorem pairedQuotes_of_spellsText {v : Value} (h : SpellsText v cs) : PairedQuotes cs := by
  obtain ⟨hg, hw, hg'⟩ := h
  exact hg.pairedQuotes.append ((pairedQuotes_of_spells hw).append hg'.pairedQuotes)

end TestLocator.Json
