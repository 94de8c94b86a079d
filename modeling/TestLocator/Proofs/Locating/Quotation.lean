import Mathlib.Data.List.Basic
import Mathlib.Data.List.Forall2
import TestLocator.Proofs.Locating.FirstMatch
import TestLocator.Proofs.Text.Breaks
import TestLocator.Proofs.Text.Removal

/-!
# Matches quote their source

A document is not the text of its file: breaks are written in one way and the marker is left out.
The numbers and the text of a match are those of the file all the same.

* `cleanLines`, `forall₂_removal_cleanLines`, `lines_ofText` — the lines of a document, each as a
  line of the text;
* `findInDocument_eq_ok_iff`, `locate_eq_ok_iff` — searches that succeed;
* `Quotes`, `quotes_blockOf` — a block is a quotation of some lines of a text;
* **`match_quotes_source`** — what a search finds is one.
-/

namespace TestLocator.Locating

open TestLocator.Files TestLocator.Syntax TestLocator.Text

/-! ## The lines of a document -/

section Lines

variable (path : Path) (text marker : String)

/-- The text of a document cut at the line feeds. -/
def cleanLines : List (List Char) :=
  (stripMarker marker.toList (unifyBreaks text.toList)).splitOn '\n'

theorem removal_stripMarker_or (marker cs : List Char) :
    '\n' ∉ marker ∧ Removal marker cs (stripMarker marker cs) ∨
      '\n' ∈ marker ∧ stripMarker marker cs = cs := by
  unfold stripMarker
  by_cases h : '\n' ∈ marker
  · exact .inr ⟨h, if_pos (by simpa using h)⟩
  · refine .inl ⟨h, ?_⟩
    rw [if_neg (by simpa using h)]
    exact removal_removeAll marker cs

theorem forall₂_removal_cleanLines :
    List.Forall₂ (Removal marker.toList) (physicalLines text.toList) (cleanLines text marker) := by
  rw [← splitOn_unifyBreaks, cleanLines]
  rcases removal_stripMarker_or marker.toList (unifyBreaks text.toList) with
    ⟨hno, hrem⟩ | ⟨hin, heq⟩
  · exact hrem.forall₂_splitOn hno
  · -- no line holds a line feed, so no line holds the marker
    rw [heq, List.forall₂_same]
    exact fun l hl => .of_notMem hin (notMem_of_mem_splitOn hl)

theorem return_notMem_stripMarker {marker cs : List Char} (h : '\r' ∉ cs) :
    '\r' ∉ stripMarker marker cs := by
  rcases removal_stripMarker_or marker cs with ⟨_, hrem⟩ | ⟨_, heq⟩
  · exact fun hmem => h (hrem.sublist.subset hmem)
  · rwa [heq]

theorem lines_ofText : (Document.ofText path text marker).lines =
    (dropBlankEnd (cleanLines text marker)).map String.ofList := by
  rw [cleanLines, ← splitLines_eq (return_notMem_stripMarker (return_notMem_unifyBreaks _))]
  rfl

theorem lineCount_ofText : (Document.ofText path text marker).lineCount =
    (dropBlankEnd (cleanLines text marker)).length := by
  rw [Document.lineCount, lines_ofText, List.length_map]

end Lines

/-! ## Searches that succeed -/

theorem findInDocument_eq_ok_iff {d : Document} {line : Nat} {b : TestBlock} :
    findInDocument d line = .ok b ↔
      ∃ t, parseDocument d = .ok t ∧ findInTree t d line = some b := by
  unfold findInDocument
  cases hparse : parseDocument d with
  | error e => simp
  | ok t => cases hfind : findInTree t d line <;> simp [hfind]

theorem loadDocument_eq_ok_iff {files : FileView} {path : Path} {marker : String} {d : Document} :
    loadDocument files path marker = .ok d ↔ files.isThere path ∧
      ∃ text, files.read path = .ok text ∧ d = .ofText path text marker := by
  unfold loadDocument
  by_cases hthere : files.isThere path
  · cases hread : files.read path <;> simp [hthere, eq_comm]
  · simp [hthere]

theorem locate_eq_ok_iff {files : FileView} {path : Path} {line : Nat} {marker : String}
    {b : TestBlock} : locate files path line marker = .ok b ↔ line ≠ 0 ∧
      ∃ d, loadDocument files path marker = .ok d ∧ findInDocument d line = .ok b := by
  unfold locate
  by_cases hline : line = 0
  · simp [hline]
  · cases hload : loadDocument files path marker <;> simp [hline]

/-! ## Quotations -/

/-- A block quotes the lines of a text around a line: its numbers are numbers of lines, that line is
one of them, and its text is those lines of the text, each without the marker, with line feeds
between them. -/
structure Quotes (path : Path) (text marker : String) (line : Nat) (b : TestBlock) : Prop where
  one_le_start : 1 ≤ b.startLine
  start_le_line : b.startLine ≤ line
  line_le_end : line ≤ b.endLine
  end_le_lineCount : b.endLine ≤ (Document.ofText path text marker).lineCount
  text_eq : ∃ ls, List.Forall₂ (Removal marker.toList)
    (((physicalLines text.toList).drop (b.startLine - 1)).take (b.endLine - b.startLine + 1)) ls ∧
      b.text.toList = joinLines ls
  length_split : (b.text.toList.splitOn '\n').length = b.endLine - b.startLine + 1

variable {path : Path} {text marker : String} {line : Nat} {n : Node}

theorem linesFrom_ofText {first last : Nat} (h₁ : 1 ≤ first) (h₂ : first ≤ last)
    (h₃ : last ≤ (Document.ofText path text marker).lineCount) :
    (Document.ofText path text marker).linesFrom first last =
      (((cleanLines text marker).drop (first - 1)).take (last - first + 1)).map String.ofList := by
  rw [Document.linesFrom_eq _ h₁ h₂ h₃, lines_ofText]
  rw [lineCount_ofText] at h₃
  obtain ⟨rest, hrest⟩ := dropBlankEnd_isPrefix (cleanLines text marker)
  rw [← List.map_drop, ← List.map_take]
  congr 1
  conv_rhs => rw [← hrest]
  rw [List.drop_append_of_le_length (by omega),
    List.take_append_of_le_length (by rw [List.length_drop]; omega)]

theorem toList_intercalate_linesFrom {first last : Nat} (h₁ : 1 ≤ first) (h₂ : first ≤ last)
    (h₃ : last ≤ (Document.ofText path text marker).lineCount) :
    ("\n".intercalate ((Document.ofText path text marker).linesFrom first last)).toList =
      joinLines (((cleanLines text marker).drop (first - 1)).take (last - first + 1)) := by
  rw [linesFrom_ofText h₁ h₂ h₃, String.toList_intercalate, List.map_map]
  simp [joinLines, Function.comp_def]

/-- **The block of a match quotes the text.** -/
theorem quotes_blockOf (h : Eligible (.ofText path text marker) line n) :
    Quotes path text marker line (blockOf (.ofText path text marker) n) := by
  have hlast := h.last_le
  rw [lineCount_ofText] at hlast
  have hlen := (dropBlankEnd_isPrefix (cleanLines text marker)).length_le
  have hfirst := h.first_pos
  have hle := h.first_le_last
  -- the lines that are quoted, and the text that they make
  obtain ⟨ls, hls⟩ : ∃ ls, ((cleanLines text marker).drop (n.span.startLine - 1)).take
    (n.span.endLine - n.span.startLine + 1) = ls := ⟨_, rfl⟩
  have hlength : ls.length = n.span.endLine - n.span.startLine + 1 := by
    rw [← hls, List.length_take, List.length_drop]
    omega
  have htext : (blockOf (.ofText path text marker) n).text.toList = joinLines ls := by
    rw [blockOf, toList_intercalate_linesFrom hfirst hle h.last_le, hls]
  have hbreak : ∀ l ∈ ls, '\n' ∉ l := fun l hl =>
    notMem_of_mem_splitOn (List.mem_of_mem_drop (List.mem_of_mem_take (hls ▸ hl)))
  refine ⟨hfirst, h.encloses.1, h.encloses.2, h.last_le, ⟨ls, ?_, htext⟩, ?_⟩
  · rw [← hls]
    exact List.forall₂_take _ (List.forall₂_drop _ (forall₂_removal_cleanLines text marker))
  · have hne : ls ≠ [] := List.ne_nil_of_length_eq_add_one hlength
    rw [htext, joinLines, List.splitOn_intercalate '\n' hbreak hne, hlength]
    rfl

/-- **Matches quote their source**, whatever is searched. -/
theorem match_quotes_source (path : Path) (marker : String) (line : Nat) :
    (∀ text n b, findBelow (.ofText path text marker) line n = some b →
      Quotes path text marker line b) ∧
    (∀ text t b, findInTree t (.ofText path text marker) line = some b →
      Quotes path text marker line b) ∧
    (∀ text b, findInDocument (.ofText path text marker) line = .ok b →
      Quotes path text marker line b) ∧
    ∀ files b, locate files path line marker = .ok b →
      ∃ text, files.read path = .ok text ∧ Quotes path text marker line b := by
  have htree : ∀ text t b, findInTree t (.ofText path text marker) line = some b →
      Quotes path text marker line b := by
    intro text t b h
    rw [findInTree_eq] at h
    obtain ⟨m, _, hel, rfl⟩ := exists_of_find?_eligible h
    exact quotes_blockOf hel
  have hdoc : ∀ text b, findInDocument (.ofText path text marker) line = .ok b →
      Quotes path text marker line b := by
    intro text b h
    obtain ⟨t, _, hfind⟩ := findInDocument_eq_ok_iff.mp h
    exact htree text t b hfind
  refine ⟨fun text n b h => ?_, htree, hdoc, fun files b h => ?_⟩
  · rw [findBelow_eq] at h
    obtain ⟨m, _, hel, rfl⟩ := exists_of_find?_eligible h
    exact quotes_blockOf hel
  · obtain ⟨_, d, hload, hfind⟩ := locate_eq_ok_iff.mp h
    obtain ⟨_, text, hread, rfl⟩ := loadDocument_eq_ok_iff.mp hload
    exact ⟨text, hread, hdoc text b hfind⟩

/-- A call over two lines, with two kinds of breaks around it and the marker next to two of them. -/
theorem match_quotes_source_mixed_breaks :
    findBelow (.ofText ⟨"a.test.js"⟩ "// $E\r\nit('a', () =>\r $E1);\n" "$E") 3
        (.call ⟨2, 3⟩ (.identifier ⟨2, 2⟩ "it") []) = some ⟨"it('a', () =>\n 1);", 2, 3⟩ ∧
      Quotes ⟨"a.test.js"⟩ "// $E\r\nit('a', () =>\r $E1);\n" "$E" 3
        ⟨"it('a', () =>\n 1);", 2, 3⟩ := by
  have h : findBelow (.ofText ⟨"a.test.js"⟩ "// $E\r\nit('a', () =>\r $E1);\n" "$E") 3
      (.call ⟨2, 3⟩ (.identifier ⟨2, 2⟩ "it") []) = some ⟨"it('a', () =>\n 1);", 2, 3⟩ := by
    decide +kernel
  exact ⟨h, (match_quotes_source _ _ _).1 _ _ _ h⟩

end TestLocator.Locating
