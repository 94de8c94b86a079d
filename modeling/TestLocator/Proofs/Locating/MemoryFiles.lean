import TestLocator.Proofs.Files.Insertions
import TestLocator.Proofs.Files.Respelling
import TestLocator.Proofs.Locating.Outcomes

/-!
# Documents from files in memory

A search in files in memory can only miss the file: whatever has been put in can be read, and
whatever has not been put in counts for a missing file, also where there is a directory.

* `loadDocument_view_eq_ok_iff`, `loadDocument_view_eq_error_iff` — loading from files in memory;
* **`memoryFiles_laws`** — what files in memory answer after a sequence of insertions.
-/

namespace TestLocator.Locating

open TestLocator.Files

section Loading

variable {m : MemoryFiles} {path : Path} {marker : String}

theorem loadDocument_view_eq_ok_iff {d : Document} : loadDocument m.view path marker = .ok d ↔
    ∃ text, m.find? path = some text ∧ d = .ofText path text marker := by
  rw [loadDocument_eq_ok_iff]
  constructor
  · rintro ⟨-, text, hread, hd⟩
    exact ⟨text, MemoryFiles.read_eq_ok_iff.mp hread, hd⟩
  · rintro ⟨text, hfind, hd⟩
    exact ⟨MemoryFiles.isThere_iff.mpr (.inl ⟨text, hfind⟩), text,
      MemoryFiles.read_eq_ok_iff.mpr hfind, hd⟩

theorem loadDocument_view_eq_error_iff {e : Failure} :
    loadDocument m.view path marker = .error e ↔
      m.find? path = none ∧ e = .fileNotFound path := by
  rw [loadDocument_eq_error_iff]
  constructor
  · rintro (⟨hthere | ⟨cause, hread, -⟩, he⟩ | ⟨hfile, cause, hread, -⟩)
    · have hnone : ¬ ∃ text, m.find? path = some text := fun hfind =>
        Bool.eq_false_iff.mp hthere (MemoryFiles.isThere_iff.mpr (.inl hfind))
      exact ⟨Option.eq_none_iff_forall_ne_some.mpr (not_exists.mp hnone), he⟩
    · exact ⟨(MemoryFiles.read_eq_error_iff.mp hread).1, he⟩
    · -- no file in memory fails in another way than by not being there
      have hkind : cause.kind = .notFound := by rw [(MemoryFiles.read_eq_error_iff.mp hread).2]
      exact absurd hkind ((not_missing_iff.mp hfile).2 cause hread)
  · rintro ⟨hnone, he⟩
    exact .inl ⟨.inr ⟨_, MemoryFiles.read_eq_error_iff.mpr ⟨hnone, rfl⟩, rfl⟩, he⟩

end Loading

/-- **Files in memory** after any sequence of insertions. -/
theorem memoryFiles_laws (files : List (Path × String)) (path : Path) :
    let m := MemoryFiles.insertAll {} files
    (∀ text, m.read path = .ok text ↔ LastAt path text files) ∧
    (∀ cause, m.read path = .error cause ↔
      (∀ e ∈ files, e.1.components ≠ path.components) ∧
        cause = ⟨.notFound, path.text ++ " not in memory file system"⟩) ∧
    (m.isDirectory path ↔ ∃ e ∈ files, path.IsAbove e.1) ∧
    (m.isThere path ↔ (∃ text, m.read path = .ok text) ∨ m.isDirectory path) ∧
    (m.isThere path → ∀ q : Path,
      (q.IsAbove path ∨ ∃ k, Path.above? (k + 1) path = some q) → m.isDirectory q) ∧
    (∀ marker d, loadDocument m.view path marker = .ok d ↔
      ∃ text, LastAt path text files ∧ d = .ofText path text marker) ∧
    (∀ marker failure, loadDocument m.view path marker = .error failure ↔
      (∀ e ∈ files, e.1.components ≠ path.components) ∧ failure = .fileNotFound path) ∧
    ∀ q : Path, path.components = q.components ↔ Relation.EqvGen Path.Respells path q := by
  intro m
  have hsome : ∀ text, m.find? path = some text ↔ LastAt path text files := fun text =>
    MemoryFiles.find?_insertAll_eq_some_iff.trans (or_iff_left fun h => absurd h.2 nofun)
  have hnone : m.find? path = none ↔ ∀ e ∈ files, e.1.components ≠ path.components :=
    MemoryFiles.find?_insertAll_eq_none_iff.trans (and_iff_left rfl)
  refine ⟨fun text => ?_, fun cause => ?_, ?_, ?_, fun hthere q hq => ?_, fun marker d => ?_,
    fun marker failure => ?_, fun q => Path.components_eq_iff⟩
  · rw [MemoryFiles.read_eq_ok_iff, hsome]
  · rw [MemoryFiles.read_eq_error_iff, hnone]
  · exact MemoryFiles.isDirectory_insertAll_iff.trans (or_iff_left nofun)
  · simp only [MemoryFiles.isThere_iff, MemoryFiles.read_eq_ok_iff]
  · refine MemoryFiles.isDirectory_of_isAbove hthere (hq.elim id ?_)
    rintro ⟨k, hk⟩
    exact Path.isAbove_of_above? hk
  · simp only [loadDocument_view_eq_ok_iff, hsome]
  · rw [loadDocument_view_eq_error_iff, hnone]

/-- Another spelling of a path replaces what is there, and a path may be a file and a directory at
once. -/
example :
    let m := MemoryFiles.insertAll {}
      [(⟨"/a/b"⟩, "old"), (⟨"/a/b/c.js"⟩, "x;"), (⟨"//a/./b/"⟩, "new")]
    m.find? ⟨"/a/b"⟩ = some "new" ∧ m.isDirectory ⟨"/a//b"⟩ = true ∧
      m.isThere ⟨"/a/c"⟩ = false := by
  decide +kernel

end TestLocator.Locating
