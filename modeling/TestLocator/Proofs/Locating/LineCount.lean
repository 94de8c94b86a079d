import TestLocator.Proofs.Locating.Quotation

/-!
# The number of lines

Leaving the marker out takes no line away but one: a last line that is not ended and holds nothing
but the marker.

* `removal_nil_iff` — texts that are left out as a whole;
* `exists_getLast?_cleanLines` — the last line of a document;
* `EndsInMarkers`, **`lineCount_ofText_marker`** — when the marker counts for the number of lines.
-/

namespace TestLocator.Text

variable {word cs : List Char}

theorem removal_nil_iff : Removal word cs [] ↔ ∃ k, cs = (List.replicate k word).flatten := by
  constructor
  · intro h
    generalize hds : ([] : List Char) = ds at h
    induction h with
    | nil => exact ⟨0, rfl⟩
    | skip _ _ ih =>
      obtain ⟨k, hk⟩ := ih hds
      exact ⟨k + 1, by rw [hk, List.replicate_succ, List.flatten_cons]⟩
    | keep _ _ _ => cases hds
  · rintro ⟨k, rfl⟩
    by_cases hword : word = []
    · rw [hword, List.flatten_replicate_nil]
      exact .nil
    · induction k with
      | zero => exact .nil
      | succ k ih =>
        rw [List.replicate_succ, List.flatten_cons]
        exact .skip hword ih

theorem physicalLines_ne_nil (cs : List Char) : physicalLines cs ≠ [] := by
  rw [← splitOn_unifyBreaks]
  exact List.splitOn_ne_nil _ _

end TestLocator.Text

namespace TestLocator.Locating

open TestLocator.Files TestLocator.Text

/-- The last line of a text is not ended, and holds the marker, once or several times, and nothing
else. -/
def EndsInMarkers (text marker : List Char) : Prop :=
  marker ≠ [] ∧ ∃ k, (physicalLines text).getLast? = some (List.replicate (k + 1) marker).flatten

theorem cleanLines_empty (text : String) : cleanLines text "" = physicalLines text.toList :=
  splitOn_unifyBreaks _

theorem exists_getLast?_cleanLines {text : String} (marker : String) {last : List Char}
    (hlast : (physicalLines text.toList).getLast? = some last) :
    ∃ kept, (cleanLines text marker).getLast? = some kept ∧ Removal marker.toList last kept := by
  have hlines := List.forall₂_reverse_iff.mpr (forall₂_removal_cleanLines text marker)
  obtain ⟨front, hfront⟩ := List.head?_eq_some_iff.mp (List.head?_reverse.trans hlast)
  rw [hfront] at hlines
  obtain ⟨kept, rest, hkept, -, hrest⟩ := List.forall₂_cons_left_iff.mp hlines
  refine ⟨kept, ?_, hkept⟩
  rw [← List.head?_reverse, hrest, List.head?_cons]

theorem endsInMarkers_iff {text marker last : List Char}
    (hlast : (physicalLines text).getLast? = some last) :
    EndsInMarkers text marker ↔ last ≠ [] ∧ Removal marker last [] := by
  rw [EndsInMarkers, hlast, removal_nil_iff]
  constructor
  · rintro ⟨hmarker, k, hk⟩
    obtain rfl := Option.some.inj hk
    refine ⟨?_, k + 1, rfl⟩
    rw [List.replicate_succ, List.flatten_cons]
    exact List.append_ne_nil_of_left_ne_nil hmarker _
  · rintro ⟨hne, k, rfl⟩
    cases k with
    | zero => exact absurd rfl hne
    | succ k =>
      refine ⟨fun hmarker => hne ?_, k, rfl⟩
      rw [hmarker, List.flatten_replicate_nil]

/-- **The marker and the number of lines.** Only a last line of markers, not ended, is lost. -/
theorem lineCount_ofText_marker (path : Path) (text marker : String) :
    ((Document.ofText path text marker).lineCount = (Document.ofText path text "").lineCount ↔
      ¬ EndsInMarkers text.toList marker.toList) ∧
    ((Document.ofText path text marker).lineCount + 1 = (Document.ofText path text "").lineCount ↔
      EndsInMarkers text.toList marker.toList) := by
  have hne := physicalLines_ne_nil text.toList
  obtain ⟨last, hlast⟩ := Option.isSome_iff_exists.mp (List.getLast?_isSome.mpr hne)
  obtain ⟨kept, hkept, hremoval⟩ := exists_getLast?_cleanLines marker hlast
  have hlength := (forall₂_removal_cleanLines text marker).length_eq
  have hpos := List.length_pos_of_ne_nil hne
  -- an empty line stays empty, and a line of markers becomes so
  have hempty : last = [] → kept = [] := by
    rintro rfl
    exact List.sublist_nil.mp hremoval.sublist
  have hmarkers : Removal marker.toList last [] ↔ kept = [] := by
    rw [removal_iff, hremoval.eq_removeAll, eq_comm]
  rw [endsInMarkers_iff hlast, hmarkers, lineCount_ofText, lineCount_ofText, cleanLines_empty,
    length_dropBlankEnd, length_dropBlankEnd, hlast, hkept, ← hlength]
  by_cases hl : last = []
  · simp [hl, hempty hl]
  · by_cases hk : kept = []
    · simp only [hk, ↓reduceIte, Option.some.injEq, hl, Nat.sub_zero, ne_eq, not_false_eq_true,
        and_self, not_true_eq_false, iff_false, iff_true]
      omega
    · simp [hl, hk]

/-- A line that only flags an error is the last of a text without it. -/
theorem lineCount_ofText_marker_alone :
    (Document.ofText ⟨"suite.test.js"⟩ "a\n$ExpectError" "$ExpectError").lineCount = 1 ∧
      (Document.ofText ⟨"suite.test.js"⟩ "a\n$ExpectError" "").lineCount = 2 := by
  decide +kernel

end TestLocator.Locating
