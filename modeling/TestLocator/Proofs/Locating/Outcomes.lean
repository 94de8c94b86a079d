import TestLocator.Proofs.Locating.Quotation
import TestLocator.Proofs.Syntax.Acceptance

/-!
# What a search comes to

A search in a file ends in one of six ways: the line is none, there is no file, the file cannot be
read, its text does not parse, no test encloses the line, or a test is found. What the layers of the
search say is put in order here: an earlier case hides the later ones.

* `Missing` — there is no file at a path;
* `Rejected`, `Parses` — what becomes of a document that two grammars may read;
* `loadDocument_eq_error_iff`, `parses_or_rejected` — what these two layers give;
* `Ends` — the outcome of a search, read off the file, its grammars and the order of the tree;
* **`locate_outcome`** — a search ends in this way and in no other.
-/

namespace TestLocator.Locating

open TestLocator.Files TestLocator.Syntax

/-! ## The file -/

/-- There is no file at a path: nothing is there, or it has gone when it is read. -/
def Missing (files : FileView) (path : Path) : Prop :=
  files.isThere path = false ∨ ∃ cause, files.read path = .error cause ∧ cause.kind = .notFound

section File

variable {files : FileView} {path : Path} {marker : String}

theorem not_missing_iff : ¬ Missing files path ↔
    files.isThere path ∧ ∀ cause, files.read path = .error cause → cause.kind ≠ .notFound := by
  simp [Missing]

theorem not_missing_of_read {text : String} (hthere : files.isThere path)
    (hread : files.read path = .ok text) : ¬ Missing files path := by
  refine not_missing_iff.mpr ⟨hthere, fun cause hcause => ?_⟩
  cases hread.symm.trans hcause

theorem loadDocument_eq_error_iff {e : Failure} : loadDocument files path marker = .error e ↔
    Missing files path ∧ e = .fileNotFound path ∨
    ¬ Missing files path ∧
      ∃ cause, files.read path = .error cause ∧ e = .unreadable path cause := by
  unfold loadDocument
  cases hthere : files.isThere path with
  | false => simp [Missing, hthere, eq_comm]
  | true =>
    cases hread : files.read path with
    | ok text => simp [Missing, hthere, hread]
    | error cause =>
      by_cases hkind : cause.kind = .notFound
      · simp [Missing, hthere, hread, hkind, Failure.ofAccess, eq_comm]
      · simp [Missing, hthere, hread, hkind, Failure.ofAccess, @eq_comm _ e]

end File

/-! ## The grammars -/

/-- No grammar that a document may be read with accepts it. The fault is that of its own language;
what is wrong with the second reading, which plain JavaScript gets, does not count. -/
structure Rejected (d : Document) (fault : Fault) : Prop where
  own : SyntaxTree.ofText d.language d.text = .error fault
  typed : d.language = .javaScript → ∃ other, SyntaxTree.ofText .tsx d.text = .error other

/-- The tree that a document is read as: that of its own language, or, for plain JavaScript that has
none, that of the second reading. -/
inductive Parses (d : Document) : SyntaxTree → Prop
  | own {t : SyntaxTree} : SyntaxTree.ofText d.language d.text = .ok t → Parses d t
  | typed {fault : Fault} {t : SyntaxTree} : d.language = .javaScript →
    SyntaxTree.ofText d.language d.text = .error fault → SyntaxTree.ofText .tsx d.text = .ok t →
    Parses d t

section Grammars

variable {d : Document} {t : SyntaxTree} {fault : Fault}

theorem Parses.parseDocument_eq (h : Parses d t) : parseDocument d = .ok t := by
  rw [parseDocument]
  cases h with
  | own hown => rw [hown]
  | typed hlanguage hown htyped => simp only [hown, if_pos hlanguage, htyped]

theorem Rejected.parseDocument_eq (h : Rejected d fault) :
    parseDocument d = .error (.parse d.path fault.line fault.column fault.message) := by
  rw [parseDocument]
  by_cases hlanguage : d.language = .javaScript
  · obtain ⟨other, hother⟩ := h.typed hlanguage
    simp only [h.own, if_pos hlanguage, hother]
  · simp only [h.own, if_neg hlanguage]

theorem parses_or_rejected (d : Document) : (∃ t, Parses d t) ∨ ∃ fault, Rejected d fault := by
  cases hown : SyntaxTree.ofText d.language d.text with
  | ok t => exact .inl ⟨t, .own hown⟩
  | error fault =>
    by_cases hlanguage : d.language = .javaScript
    · cases htyped : SyntaxTree.ofText .tsx d.text with
      | ok t => exact .inl ⟨t, .typed hlanguage hown htyped⟩
      | error other => exact .inr ⟨fault, hown, fun _ => ⟨other, htyped⟩⟩
    · exact .inr ⟨fault, hown, fun h => absurd h hlanguage⟩

theorem Rejected.findInDocument_eq (h : Rejected d fault) (line : Nat) :
    findInDocument d line =
      .error (.parse d.path fault.line fault.column fault.message) := by
  rw [findInDocument, h.parseDocument_eq]

theorem Parses.findInDocument_eq (h : Parses d t) (line : Nat) :
    findInDocument d line =
      match t.nodes.find? (Eligible d line ·) with
      | some n => .ok (blockOf d n)
      | none => .error (.noMatch d.path line) := by
  rw [findInDocument, h.parseDocument_eq]
  simp only [findInTree_eq]
  cases t.nodes.find? (Eligible d line ·) <;> rfl

end Grammars

/-! ## The outcome -/

theorem Document.path_ofText (path : Path) (text marker : String) :
    (Document.ofText path text marker).path = path :=
  rfl

/-- The outcome of a search in a file. Each case says that those before it do not apply. -/
inductive Ends (files : FileView) (path : Path) (line : Nat) (marker : String) :
    Except Failure TestBlock → Prop
  | noLine : line = 0 → Ends files path line marker (.error (.malformedInput lineZeroMessage))
  | noFile : line ≠ 0 → Missing files path →
    Ends files path line marker (.error (.fileNotFound path))
  | noText {cause : AccessFailure} : line ≠ 0 → ¬ Missing files path →
    files.read path = .error cause → Ends files path line marker (.error (.unreadable path cause))
  | noTree {text : String} {fault : Fault} : line ≠ 0 → ¬ Missing files path →
    files.read path = .ok text → Rejected (.ofText path text marker) fault →
    Ends files path line marker (.error (.parse path fault.line fault.column fault.message))
  | noTest {text : String} {t : SyntaxTree} : line ≠ 0 → ¬ Missing files path →
    files.read path = .ok text → Parses (.ofText path text marker) t →
    (∀ n ∈ t.nodes, ¬ Eligible (.ofText path text marker) line n) →
    Ends files path line marker (.error (.noMatch path line))
  | found {text : String} {t : SyntaxTree} {n : Node} : line ≠ 0 → ¬ Missing files path →
    files.read path = .ok text → Parses (.ofText path text marker) t →
    t.nodes.find? (Eligible (.ofText path text marker) line ·) = some n →
    Ends files path line marker (.ok (blockOf (.ofText path text marker) n))

section Outcome

variable {files : FileView} {path : Path} {line : Nat} {marker : String}
  {outcome : Except Failure TestBlock}

/-- A search ends in one of the ways. -/
theorem ends_locate (files : FileView) (path : Path) (line : Nat) (marker : String) :
    Ends files path line marker (locate files path line marker) := by
  by_cases hline : line = 0
  · rw [locate, if_pos hline]
    exact .noLine hline
  · rw [locate, if_neg hline]
    cases hload : loadDocument files path marker with
    | error e =>
      obtain ⟨hmissing, rfl⟩ | ⟨hthere, cause, hread, rfl⟩ := loadDocument_eq_error_iff.mp hload
      · exact .noFile hline hmissing
      · exact .noText hline hthere hread
    | ok d =>
      obtain ⟨hthere, text, hread, rfl⟩ := loadDocument_eq_ok_iff.mp hload
      have hfile := not_missing_of_read hthere hread
      obtain ⟨t, htree⟩ | ⟨fault, hfault⟩ := parses_or_rejected (.ofText path text marker)
      · simp only [htree.findInDocument_eq]
        cases hfind : t.nodes.find? (Eligible (.ofText path text marker) line ·) with
        | none => exact .noTest hline hfile hread htree (by simpa using hfind)
        | some n => exact .found hline hfile hread htree hfind
      · simp only [hfault.findInDocument_eq]
        exact .noTree hline hfile hread hfault

/-- No search ends in two of the ways. -/
theorem Ends.locate_eq (h : Ends files path line marker outcome) :
    locate files path line marker = outcome := by
  have hload : ∀ {text}, ¬ Missing files path → files.read path = .ok text →
      locate files path line marker =
        if line = 0 then .error (.malformedInput lineZeroMessage)
        else findInDocument (.ofText path text marker) line := by
    intro text hfile hread
    rw [locate, loadDocument_eq_ok_iff.mpr ⟨(not_missing_iff.mp hfile).1, text, hread, rfl⟩]
  cases h with
  | noLine hline => rw [locate, if_pos hline]
  | noFile hline hmissing =>
    rw [locate, if_neg hline, loadDocument_eq_error_iff.mpr (.inl ⟨hmissing, rfl⟩)]
  | noText hline hfile hread =>
    rw [locate, if_neg hline, loadDocument_eq_error_iff.mpr (.inr ⟨hfile, _, hread, rfl⟩)]
  | noTree hline hfile hread hfault =>
    rw [hload hfile hread, if_neg hline, hfault.findInDocument_eq, Document.path_ofText]
  | @noTest text t hline hfile hread htree hnone =>
    have hfind : t.nodes.find? (Eligible (.ofText path text marker) line ·) = none := by
      simpa using hnone
    rw [hload hfile hread, if_neg hline, htree.findInDocument_eq, hfind, Document.path_ofText]
  | found hline hfile hread htree hfind =>
    rw [hload hfile hread, if_neg hline, htree.findInDocument_eq, hfind]

/-- **Every search ends in one way**, and in no other. -/
theorem locate_outcome (files : FileView) (path : Path) (line : Nat) (marker : String) :
    (∀ outcome, locate files path line marker = outcome ↔ Ends files path line marker outcome) ∧
    (∃! outcome, Ends files path line marker outcome) ∧
    ∀ language text, (∃ fault, SyntaxTree.ofText language text = .error fault) ↔
      ∀ root, Script.concreteTree language (.ofString text) (maxNesting + 1) = some root →
        (∃ x ∈ root.preorder 0, maxNesting < x.1) ∨ root.data.hasError := by
  have hends := ends_locate files path line marker
  refine ⟨fun outcome => ⟨fun h => h ▸ hends, Ends.locate_eq⟩, ?_, SyntaxTree.ofText_rejects_iff⟩
  exact ⟨locate files path line marker, hends, fun outcome h => h.locate_eq.symm⟩

end Outcome

end TestLocator.Locating
