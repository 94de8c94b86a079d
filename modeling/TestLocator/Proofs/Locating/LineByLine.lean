import TestLocator.Proofs.Locating.Quotation

/-!
# Documents line by line

A document is made by three passes over the whole text of its file: one that joins carriage returns
with the line feeds after them, one that writes every break as a line feed, and one that leaves the
marker out. One pass over each line gives the same.

* `splitOn_text_ofText` — the text of a document cut at the line feeds;
* `count_text_ofText`, `ofText_respell` — its breaks, and that it does not matter how they are
  written;
* **`ofText_line_by_line`** — a document against its raw text, line by line.
-/

namespace TestLocator.Locating

open TestLocator.Files TestLocator.Text

section

variable (path : Path) (text marker : String)

theorem toList_text_ofText : (Document.ofText path text marker).text.toList =
    stripMarker marker.toList (unifyBreaks text.toList) :=
  String.toList_ofList

theorem splitOn_text_ofText :
    (Document.ofText path text marker).text.toList.splitOn '\n' = cleanLines text marker := by
  rw [toList_text_ofText, cleanLines]

theorem return_notMem_text_ofText : '\r' ∉ (Document.ofText path text marker).text.toList := by
  rw [toList_text_ofText]
  exact return_notMem_stripMarker (return_notMem_unifyBreaks _)

theorem count_text_ofText :
    (Document.ofText path text marker).text.toList.count '\n' = breakCount text.toList := by
  have hlength := (forall₂_removal_cleanLines text marker).length_eq
  rw [length_physicalLines, ← splitOn_text_ofText path, length_splitOn] at hlength
  omega

theorem ofText_congr {text' : String}
    (h : unifyBreaks text.toList = unifyBreaks text'.toList) :
    Document.ofText path text marker = Document.ofText path text' marker := by
  unfold Document.ofText
  rw [h]

theorem ofText_respell (h : '\r' ∉ text.toList) {lineEnd : List Char}
    (hlineEnd : lineEnd ∈ [['\r', '\n'], ['\r']]) :
    Document.ofText path (.ofList (respell lineEnd text.toList)) marker =
      Document.ofText path text marker := by
  obtain ⟨hboth, hreturn⟩ := unifyBreaks_respell h
  refine ofText_congr path _ marker ?_
  rw [String.toList_ofList, unifyBreaks_of_notMem h]
  rcases List.mem_pair.mp hlineEnd with rfl | rfl
  · exact hboth
  · exact hreturn

end

/-- **A document is its text line by line**, each line without the marker. -/
theorem ofText_line_by_line (path : Path) (text marker : String) :
    List.Forall₂ (Removal marker.toList) (physicalLines text.toList)
        ((Document.ofText path text marker).text.toList.splitOn '\n') ∧
      '\r' ∉ (Document.ofText path text marker).text.toList ∧
      (Document.ofText path text marker).text.toList.count '\n' = breakCount text.toList ∧
      ('\r' ∉ text.toList → ∀ lineEnd ∈ [['\r', '\n'], ['\r']],
        Document.ofText path (.ofList (respell lineEnd text.toList)) marker =
          Document.ofText path text marker) ∧
      (Document.ofText path text marker).lines =
        (dropBlankEnd ((Document.ofText path text marker).text.toList.splitOn '\n')).map
          String.ofList := by
  refine ⟨?_, return_notMem_text_ofText path text marker, count_text_ofText path text marker,
    fun h lineEnd hlineEnd => ofText_respell path text marker h hlineEnd, ?_⟩
  · rw [splitOn_text_ofText]
    exact forall₂_removal_cleanLines text marker
  · rw [splitOn_text_ofText]
    exact lines_ofText path text marker

/-- Of a text of three breaks, all spellings give one document. -/
theorem ofText_line_by_line_sample :
    '\r' ∉ "a$E\n\n$E$E\nb".toList ∧
      (∀ lineEnd ∈ [['\r', '\n'], ['\r']],
        Document.ofText ⟨"a.js"⟩ (.ofList (respell lineEnd "a$E\n\n$E$E\nb".toList)) "$E" =
          Document.ofText ⟨"a.js"⟩ "a$E\n\n$E$E\nb" "$E") ∧
      (Document.ofText ⟨"a.js"⟩ "a$E\n\n$E$E\nb" "$E").text = "a\n\n\nb" := by
  have h : '\r' ∉ "a$E\n\n$E$E\nb".toList := by decide
  exact ⟨h, (ofText_line_by_line ⟨"a.js"⟩ "a$E\n\n$E$E\nb" "$E").2.2.2.1 h, by decide +kernel⟩

end TestLocator.Locating
