import TestLocator.Proofs.Batch.Positions
import TestLocator.Proofs.Json.Quotes

/-!
# Descriptors with single quotes in their texts

A descriptor may have been written by another program as a value. Its single quotes become double
ones before it is read, in its texts as well, so it is understood as it was meant only if there are
none.

* `quotes_map_toDouble` — single quotes become quotes that count;
* `spells_trim` — the text of an object is what is left between the blanks;
* `targetLine_singleQuotes` — a descriptor that is misunderstood;
* **`targetLine_verbatim`** — without single quotes it is understood as it was meant, and with an
  odd number of them it is malformed input.
-/

namespace TestLocator.Batch

open TestLocator.Json TestLocator.Locating TestLocator.Text

theorem quotes_map_toDouble {n : Nat} {cs : List Char} (h : Quotes n cs) :
    Quotes (n + cs.count '\'') (cs.map toDouble) := by
  induction h with
  | nil => exact .nil
  | @quote n cs _ ih =>
    have hcount : ('"' :: cs).count '\'' = cs.count '\'' := List.count_cons_of_ne (by decide)
    rw [hcount, Nat.add_right_comm]
    exact .quote ih
  | @escape n c cs hc _ ih =>
    have hcount : ('\\' :: c :: cs).count '\'' = cs.count '\'' := by
      rw [List.count_cons_of_ne (by decide), List.count_cons_of_ne hc]
    have hsame : toDouble c = c := if_neg hc
    rw [hcount, List.map_cons, List.map_cons, hsame]
    exact .escape hc ih
  | @other n c cs hquote hslash _ ih =>
    by_cases hc : c = '\''
    · subst hc
      rw [List.count_cons_self, ← Nat.add_assoc]
      exact .quote ih
    · have hsame : toDouble c = c := if_neg hc
      rw [List.count_cons_of_ne hc, List.map_cons, hsame]
      exact .other hquote hslash ih

theorem spells_trim {ms : List (String × Value)} {text : List Char}
    (h : SpellsText (.object ms) text) :
    Spells (nestingLimit - 1) (.object ms) (trim text) ∧
      (trim text).count '\'' = text.count '\'' := by
  obtain @⟨g, w, g', hg, hw, hg'⟩ := h
  have hblank : ∀ g, AreGaps g → g.count '\'' = 0 := fun g hg =>
    List.count_eq_zero.mpr (isFree_of_areGaps hg)
  have htrimmed : Trimmed w := by
    cases hw with
    | object _ _ =>
      rw [← List.append_assoc]
      exact trimmed_braces _
  rw [trim_append (isBlank_of_areGaps hg) htrimmed (isBlank_of_areGaps hg'), List.count_append,
    List.count_append, hblank g hg, hblank g' hg', Nat.zero_add, Nat.add_zero]
  exact ⟨hw, rfl⟩

/-- **Without single quotes a descriptor is understood as it was meant.** With an odd number of them
it is malformed input. -/
theorem targetLine_verbatim {raw : String} {ms : List (String × Value)} {n : Nat}
    (hvalue : SpellsText (.object ms) raw.toList)
    (hc : Candidate (.object ms) (.number (.natural n))) (hn : 1 ≤ n) :
    ('\'' ∉ raw.toList → targetLine raw = .ok n) ∧
      (raw.toList.count '\'' % 2 = 1 →
        ∃ reason, targetLine raw = .error (.malformedInput reason)) := by
  obtain ⟨hw, hcount⟩ := spells_trim hvalue
  constructor
  · intro hnone
    have hfree : IsFree (trim raw.toList) :=
      List.count_eq_zero.mp (hcount.trans (List.count_eq_zero.mpr hnone))
    refine targetLine_of_candidate ?_ hc hn
    rw [normalizeDescriptor_eq, map_toDouble_of_isFree hfree]
    exact spellsText_of_spells hw
  · intro hodd
    cases h : targetLine raw with
    | ok k =>
      -- The text that is read would have an odd number of quotes.
      obtain ⟨v, hv, -⟩ := targetLine_eq_ok_iff.mp h
      obtain ⟨l, hl⟩ := pairedQuotes_of_spellsText hv
      obtain ⟨m, hm⟩ := pairedQuotes_of_spells hw
      have hcounts := (quotes_map_toDouble hm).unique hl
      omega
    | error e =>
      obtain ⟨reason, rfl⟩ := exists_reason_of_targetLine h
      exact ⟨reason, rfl⟩

/-- A descriptor of line 7 with a note. -/
def noted (note : String) : List Entry :=
  [⟨[], "line".toList, [], [' '], .integer false 7, []⟩,
    ⟨[' '], "note".toList, [], [' '], .text note.toList, []⟩]

theorem spellsText_noted (note : String) (h : IsBare note.toList) :
    SpellsText (.object ((noted note).map Entry.member)) (objectText '"' (noted note)) := by
  have hspace : AreGaps [' '] := by decide
  have hline : IsBare "line".toList := by decide
  have hnote : IsBare "note".toList := by decide
  have hsize : (Plain.integer false 7).WellFormed := by decide
  refine spellsText_of_spells (spells_objectText (List.forall_mem_cons.mpr ⟨?_, ?_⟩))
  · exact ⟨areGaps_nil, hline, areGaps_nil, hspace, hsize, areGaps_nil⟩
  · exact List.forall_mem_singleton.mpr ⟨hspace, hnote, areGaps_nil, hspace, h, areGaps_nil⟩

theorem candidate_noted (note : String) :
    Candidate (.object ((noted note).map Entry.member)) (.number (.natural 7)) :=
  candidate_of_tellsPosition (by decide) (by simp [noted])
    (.line (.head _) rfl rfl (by simp [noted]))

/-- Two notes of which the second has a single quote. -/
theorem targetLine_verbatim_noted :
    targetLine "\x7b\"line\": 7, \"note\": \"it is\"\x7d" = .ok 7 ∧
      ∃ reason, targetLine "\x7b\"line\": 7, \"note\": \"it's\"\x7d" =
        .error (.malformedInput reason) := by
  have hplain : SpellsText _ "\x7b\"line\": 7, \"note\": \"it is\"\x7d".toList :=
    spellsText_noted "it is" (by decide)
  have hquoted : SpellsText _ "\x7b\"line\": 7, \"note\": \"it's\"\x7d".toList :=
    spellsText_noted "it's" (by decide)
  exact ⟨(targetLine_verbatim hplain (candidate_noted _) (by decide)).1 (by decide),
    (targetLine_verbatim hquoted (candidate_noted _) (by decide)).2 (by decide)⟩

/-- What is read where a note goes on to tell another line: its single quotes end it. -/
def reread : List Entry :=
  noted "" ++ [⟨[' '], "line".toList, [], [' '], .integer false 9, []⟩,
    ⟨[' '], "end".toList, [], [' '], .text [], []⟩]

theorem candidate_reread :
    Candidate (.object (reread.map Entry.member)) (.number (.natural 9)) := by
  have hnone : "startLine" ∉ (reread.map Entry.member).map Prod.fst := by decide
  have hlast : LastMember "line" (.number (.natural 9)) (reread.map Entry.member) :=
    @LastMember.intro "line" _ ((noted "").map Entry.member) [("end", .string "")] (by simp)
  exact .line (fun u hu => absurd (List.mem_map_of_mem hu.mem) hnone) hlast

/-- **A descriptor is misunderstood** where a single quote ends the note and the note goes on to
tell another line. -/
theorem targetLine_singleQuotes :
    (∃ ms, SpellsText (.object ms)
        "\x7b\"line\": 7, \"note\": \"', 'line': 9, 'end': '\"\x7d".toList ∧
      Candidate (.object ms) (.number (.natural 7))) ∧
      targetLine "\x7b\"line\": 7, \"note\": \"', 'line': 9, 'end': '\"\x7d" = .ok 9 := by
  constructor
  · exact ⟨_, spellsText_noted "', 'line': 9, 'end': '" (by decide), candidate_noted _⟩
  · have hes : ∀ e ∈ reread, e.WellFormed := by decide
    exact targetLine_of_candidate (spellsText_of_spells (spells_objectText hes)) candidate_reread
      (by decide)

end TestLocator.Batch
