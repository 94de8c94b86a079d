import TestLocator.Proofs.Locating.LineByLine
import TestLocator.Proofs.Text.Occurrence

/-!
# Markers that are left

Every occurrence of the marker is left out of a document, but a new one may form where the text
around an occurrence comes together.

* `removal_text_ofText`, `text_ofText_of_removal` — the text of a document, for a marker without
  breaks;
* `ofText_text_eq_iff` — making a document of the text of a document;
* **`marker_left_iff`** — which markers may be left in a document, and of which text.
-/

namespace TestLocator.Locating

open TestLocator.Files TestLocator.Text

/-- A marker that is not empty and has no breaks. -/
structure InLine (marker : String) : Prop where
  ne_nil : marker.toList ≠ []
  lineFeed_notMem : '\n' ∉ marker.toList
  return_notMem : '\r' ∉ marker.toList

instance : DecidablePred InLine := fun marker =>
  decidable_of_iff (marker.toList ≠ [] ∧ '\n' ∉ marker.toList ∧ '\r' ∉ marker.toList)
    ⟨fun h => ⟨h.1, h.2.1, h.2.2⟩, fun h => ⟨h.1, h.2, h.3⟩⟩

section

variable (path : Path) {text marker : String}

theorem removal_text_ofText (h : InLine marker) (text : String) :
    Removal marker.toList (unifyBreaks text.toList)
      (Document.ofText path text marker).text.toList := by
  rw [toList_text_ofText]
  obtain ⟨_, hremoval⟩ | ⟨hmem, _⟩ := removal_stripMarker_or marker.toList (unifyBreaks text.toList)
  · exact hremoval
  · exact absurd hmem h.lineFeed_notMem

theorem text_ofText_of_removal (h : InLine marker) {cs ds : List Char} (hcs : '\r' ∉ cs)
    (hremoval : Removal marker.toList cs ds) :
    (Document.ofText path (.ofList cs) marker).text.toList = ds := by
  have htext := removal_text_ofText path h (.ofList cs)
  rw [String.toList_ofList, unifyBreaks_of_notMem hcs] at htext
  rw [htext.eq_removeAll, hremoval.eq_removeAll]

theorem ofText_eq_of_text_eq {text' marker' : String}
    (h : (Document.ofText path text' marker').text = (Document.ofText path text marker).text) :
    Document.ofText path text' marker' = Document.ofText path text marker := by
  unfold Document.ofText at h ⊢
  have hcs := String.ofList_injective h
  rw [hcs]

theorem ofText_text_eq_iff (h : InLine marker) (text : String) :
    Document.ofText path (Document.ofText path text marker).text marker =
        Document.ofText path text marker ↔
      ¬ marker.toList <:+: (Document.ofText path text marker).text.toList := by
  have hagain := removal_text_ofText path h (Document.ofText path text marker).text
  rw [unifyBreaks_of_notMem (return_notMem_text_ofText path text marker)] at hagain
  rw [← removal_self_iff h.ne_nil]
  constructor
  · intro heq
    rwa [heq] at hagain
  · intro hself
    refine ofText_eq_of_text_eq path (String.toList_inj.mp ?_)
    rw [hagain.eq_removeAll, ← hself.eq_removeAll]

end

/-- **Which markers are left**: all but those of one character, written any number of times. -/
theorem marker_left_iff (marker : String) (h : InLine marker) :
    ((∀ path text, ¬ marker.toList <:+: (Document.ofText path text marker).text.toList) ↔
        Uniform marker.toList) ∧
      ∀ path text,
        (¬ marker.toList <:+: (Document.ofText path text marker).text.toList ↔
          Document.ofText path (Document.ofText path text marker).text marker =
            Document.ofText path text marker) ∧
        ∃ ps, marker.toList.intercalate ps = unifyBreaks text.toList ∧
          ps.flatten = (Document.ofText path text marker).text.toList ∧
          ∀ p ∈ ps, ¬ marker.toList <:+: p := by
  refine ⟨⟨fun hgone => ?_, fun huniform path text => ?_⟩, fun path text => ⟨?_, ?_⟩⟩
  · by_contra hword
    obtain ⟨front, back, hmarker, hremoval⟩ := exists_removal_self h.ne_nil hword
    have hparts : '\r' ∉ front ∧ '\r' ∉ back := by
      have hno := h.return_notMem
      rwa [hmarker, List.mem_append, not_or] at hno
    have hreturn : '\r' ∉ front ++ (marker.toList ++ back) := by
      simp [hparts, h.return_notMem]
    refine hgone ⟨"a.js"⟩ (.ofList (front ++ (marker.toList ++ back))) ?_
    have hleft := text_ofText_of_removal ⟨"a.js"⟩ h hreturn hremoval
    exact ⟨[], [], (List.append_nil _).trans hleft.symm⟩
  · exact (removal_text_ofText path h text).not_infix_of_uniform h.ne_nil huniform
  · exact (ofText_text_eq_iff path h text).symm
  · exact (removal_text_ofText path h text).exists_pieces h.ne_nil

/-- The default marker is of several characters, so it is left in some document. -/
theorem marker_left_iff_default : InLine defaultMarker ∧
    ¬ ∀ path text,
      ¬ defaultMarker.toList <:+: (Document.ofText path text defaultMarker).text.toList := by
  have h : InLine defaultMarker := by decide
  refine ⟨h, fun hgone => ?_⟩
  obtain ⟨c, hc⟩ := (marker_left_iff defaultMarker h).1.mp hgone
  have hdollar : '$' = c := hc '$' (by decide)
  have hletter : 'E' = c := hc 'E' (by decide)
  exact absurd (hdollar.trans hletter.symm) (by decide)

/-- Of a marker that stands inside a marker, the outer one is left. -/
theorem ofText_marker_in_marker :
    (Document.ofText ⟨"suite.test.js"⟩ "$Expect$ExpectErrorError" "$ExpectError").text =
      "$ExpectError" := by
  decide +kernel

end TestLocator.Locating
