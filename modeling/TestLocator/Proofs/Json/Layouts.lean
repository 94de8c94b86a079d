import TestLocator.Json.Writer
import TestLocator.Proofs.Json.Decoding

/-!
# What is written is a value

The two layouts of an object differ in blanks only, so that both are read back as the same object.

* `spellsString_escape`, `Datum.spells_written` — a text with its escapes and a value as they are
  written;
* `spellsMembers_intercalate` — members with commas between them;
* `spellsText_compact`, `spellsText_pretty`, **`ofText_layouts`** — the two layouts.
-/

namespace TestLocator.Json

variable {levels : Nat}

/-! ## Texts -/

theorem hexValue?_hexDigit : ∀ n < 16, hexValue? (hexDigit n) = some n := by decide

theorem spellsUnit_control {c : Char} (h : c < ' ') :
    SpellsUnit c.toNat ['0', '0', hexDigit (c.toNat / 16), hexDigit (c.toNat % 16)] := by
  have hsize : c.toNat < 32 := h
  have hunit : SpellsUnit (((0 * 16 + 0) * 16 + c.toNat / 16) * 16 + c.toNat % 16) _ :=
    .digits (a := '0') (b := '0') rfl rfl (hexValue?_hexDigit (c.toNat / 16) (by omega))
      (hexValue?_hexDigit (c.toNat % 16) (by omega))
  have hvalue : ((0 * 16 + 0) * 16 + c.toNat / 16) * 16 + c.toNat % 16 = c.toNat := by omega
  rwa [hvalue] at hunit

/-- **A character is written as itself or as an escape of it.** -/
theorem spellsChar_escape (c : Char) : SpellsChar c (escape c) := by
  unfold escape
  split_ifs with hquote hslash hback htab hfeed hform hreturn hcontrol
  · subst hquote; exact .letter (by decide)
  · subst hslash; exact .letter (by decide)
  · subst hback; exact .letter (by decide)
  · subst htab; exact .letter (by decide)
  · subst hfeed; exact .letter (by decide)
  · subst hform; exact .letter (by decide)
  · subst hreturn; exact .letter (by decide)
  · have hsize : c.toNat < 32 := hcontrol
    have hchar := SpellsChar.unit (spellsUnit_control hcontrol)
      (decide_eq_false (by omega)) (decide_eq_false (by omega))
    rwa [Char.ofNat_toNat] at hchar
  · exact .plain hquote hslash hcontrol

theorem spellsString_escape (cs : List Char) : SpellsString cs (cs.flatMap escape) := by
  induction cs with
  | nil => exact .nil
  | cons c cs ih => exact .cons (spellsChar_escape c) ih

/-! ## Values and members -/

/-- A value can be written and read back: a number has at most 64 bits. -/
def Datum.Fits : Datum → Prop
  | text _ => True
  | natural n => n < Nat.pow 2 64

theorem Datum.spells_written {x : Datum} (h : x.Fits) : Spells levels x.value x.written := by
  cases x with
  | text s =>
    have hs : Spells levels (.string (.ofList s.toList)) (quoted s.toList) :=
      .string (spellsString_escape s.toList)
    rwa [String.ofList_toList] at hs
  | natural n => exact .number (spellsNumber_natural_iff.mpr ⟨rfl, h⟩)

theorem spellsMember_written {g : List Char} (hg : AreGaps g) {m : String × Datum}
    (h : m.2.Fits) :
    SpellsMember levels (m.1, m.2.value) (quoted m.1.toList ++ ':' :: (g ++ m.2.written)) := by
  have hm : SpellsMember levels (.ofList m.1.toList, m.2.value) _ :=
    .intro (spellsString_escape m.1.toList) areGaps_nil hg (Datum.spells_written h)
  rw [String.ofList_toList] at hm
  simpa [quoted] using hm

variable (levels) in
/-- **Members with commas between them** are the members of an object. -/
theorem spellsMembers_intercalate {lead gap tail : List Char} (hlead : AreGaps lead)
    (hgap : AreGaps gap) (htail : AreGaps tail) {written : String × Datum → List Char}
    {ms : Members} (hne : ms ≠ [])
    (h : ∀ m ∈ ms, SpellsMember levels (m.1, m.2.value) (written m)) :
    ∃ w, (',' :: gap).intercalate (ms.map fun m => lead ++ written m) ++ tail = lead ++ w ∧
      SpellsMembers levels (ms.map fun m => (m.1, m.2.value)) w := by
  induction ms with
  | nil => contradiction
  | cons m ms ih =>
    obtain ⟨hm, hms⟩ := List.forall_mem_cons.mp h
    cases ms with
    | nil =>
      refine ⟨written m ++ tail, ?_, .last hm htail⟩
      simp
    | cons m' ms =>
      obtain ⟨w, hw, hspells⟩ := ih (List.cons_ne_nil _ _) hms
      refine ⟨written m ++ ([] ++ ',' :: ((gap ++ lead) ++ w)), ?_,
        .cons hm areGaps_nil (hgap.append hlead) (List.cons_ne_nil _ _) hspells⟩
      simp only [List.map_cons, List.intercalate_cons_cons, List.append_assoc] at hw ⊢
      simp [hw]

/-! ## Objects -/

theorem spellsText_of_spells {v : Value} {w : List Char} (h : Spells (nestingLimit - 1) v w) :
    SpellsText v w := by
  simpa using SpellsText.intro areGaps_nil h areGaps_nil

theorem spellsText_compact {ms : Members} (h : ∀ m ∈ ms, m.2.Fits) :
    SpellsText ms.value (compact ms) := by
  by_cases hne : ms = []
  · subst hne
    exact spellsText_of_spells (.object areGaps_nil .nil)
  · obtain ⟨w, hw, hspells⟩ := spellsMembers_intercalate (nestingLimit - 2) areGaps_nil
      areGaps_nil areGaps_nil hne fun m hm => spellsMember_written areGaps_nil (h m hm)
    simp only [List.nil_append, List.append_nil] at hw
    have hobject := Spells.object areGaps_nil hspells
    rw [compact, hw]
    exact spellsText_of_spells hobject

theorem spellsText_pretty {ms : Members} (h : ∀ m ∈ ms, m.2.Fits) :
    SpellsText ms.value (pretty ms) := by
  by_cases hne : ms = []
  · subst hne
    exact spellsText_of_spells (.object areGaps_nil .nil)
  · have hspace : AreGaps [' '] := by decide
    have hfeed : AreGaps ['\n'] := by decide
    have hlead : AreGaps [' ', ' '] := by decide
    obtain ⟨w, hw, hspells⟩ := spellsMembers_intercalate (nestingLimit - 2) hlead hfeed hfeed hne
      fun m hm => spellsMember_written hspace (h m hm)
    have hobject := Spells.object (hfeed.append hlead) hspells
    have htext : pretty ms = '\x7b' :: (['\n'] ++ [' ', ' '] ++ (w ++ ['\x7d'])) := by
      have hlines := congrArg (· ++ ['\x7d']) hw
      simpa [pretty, hne] using hlines
    rw [htext]
    exact spellsText_of_spells hobject

/-- **Both layouts of an object are read back as that object.** -/
theorem ofText_layouts {ms : Members} (h : ∀ m ∈ ms, m.2.Fits) :
    Value.ofText (compact ms) = .ok ms.value ∧ Value.ofText (pretty ms) = .ok ms.value :=
  ⟨ofText_eq_ok_iff.mpr (spellsText_compact h), ofText_eq_ok_iff.mpr (spellsText_pretty h)⟩

end TestLocator.Json
