import TestLocator.Files.Memory
import TestLocator.Proofs.Files.Ancestors

/-!
# Files in memory after insertions

What is read at a path is the last text that was put there, under any spelling of the path. The
directories are what stands above some path at which a text was put.

* `Path.IsAbove`, `Path.isAbove_of_above?` — the paths above a path;
* `LastAt` — the last of the texts that were put at a path;
* `find?_insert`, `isDirectory_insert_iff` — one insertion;
* **`find?_insertAll_eq_some_iff`**, `find?_insertAll_eq_none_iff`,
  **`isDirectory_insertAll_iff`** — a sequence of insertions;
* `isDirectory_of_isAbove` — what is above something that is there is a directory.
-/

namespace TestLocator.Files

/-- A path is above another one: the steps of the other start with its own and go on. -/
def Path.IsAbove (p q : Path) : Prop := p.components <+: q.components ∧ p.components ≠ q.components

/-- Of the texts that were put at a path, under any spelling, this one was put there last. -/
def LastAt (p : Path) (text : String) (files : List (Path × String)) : Prop :=
  ∃ earlier q later, files = earlier ++ (q, text) :: later ∧ q.components = p.components ∧
    ∀ e ∈ later, e.1.components ≠ p.components

namespace Path

variable {p q r : Path}

theorem same_iff : p.same q ↔ p.components = q.components := decide_eq_true_iff

theorem startsWith_iff : p.startsWith q ↔ q.components <+: p.components :=
  List.isPrefixOf_iff_prefix

theorem isAbove_congr (h : q.components = r.components) : p.IsAbove q ↔ p.IsAbove r := by
  rw [IsAbove, h, IsAbove]

theorem IsAbove.trans (hpq : p.IsAbove q) (hqr : q.components <+: r.components) : p.IsAbove r := by
  obtain ⟨hfront, hne⟩ := hpq
  refine ⟨hfront.trans hqr, fun heq => hne ?_⟩
  rw [← heq] at hqr
  exact hfront.eq_of_length_le hqr.length_le

/-- Whatever is some levels up is above. -/
theorem isAbove_of_above? {k : Nat} (h : above? (k + 1) q = some p) : p.IsAbove q := by
  obtain ⟨gone, hlength, -, hq⟩ := components_of_above? h
  refine ⟨hq ▸ List.prefix_append _ _, fun heq => ?_⟩
  rw [← heq, List.self_eq_append_right] at hq
  rw [hq] at hlength
  cases hlength

end Path

/-! ## The last text at a path -/

section

variable {p : Path} {text : String} {e : Path × String} {files : List (Path × String)}

theorem not_lastAt_nil : ¬ LastAt p text [] := by
  rintro ⟨earlier, q, later, h, -⟩
  exact absurd h (by simp)

theorem lastAt_cons_iff : LastAt p text (e :: files) ↔ LastAt p text files ∨
    (∀ e ∈ files, e.1.components ≠ p.components) ∧ e.1.components = p.components ∧
      e.2 = text := by
  constructor
  · rintro ⟨earlier, q, later, h, hq, hlater⟩
    cases earlier with
    | nil =>
      obtain ⟨rfl, rfl⟩ := List.cons.inj h
      exact .inr ⟨hlater, hq, rfl⟩
    | cons d earlier => exact .inl ⟨earlier, q, later, (List.cons.inj h).2, hq, hlater⟩
  · rintro (⟨earlier, q, later, rfl, hq, hlater⟩ | ⟨hlater, hq, rfl⟩)
    · exact ⟨e :: earlier, q, later, rfl, hq, hlater⟩
    · exact ⟨[], e.1, files, rfl, hq, hlater⟩

end

namespace MemoryFiles

variable {m : MemoryFiles} {p q : Path} {text : String} {files : List (Path × String)}

/-! ## One insertion -/

theorem find?_insert (m : MemoryFiles) (p q : Path) (text : String) :
    (m.insert p text).find? q =
      if p.components = q.components then some text else m.find? q := by
  rw [find?, insert, List.find?_cons]
  by_cases hpq : p.components = q.components
  · rw [Path.same_iff.mpr hpq, if_pos hpq]
    rfl
  · -- no entry that is found at the other path is replaced
    have hkept : ∀ e : Path × String, e.1.same q → ¬ e.1.same p := fun e hq hp =>
      hpq ((Path.same_iff.mp hp).symm.trans (Path.same_iff.mp hq))
    have hfind : ∀ e : Path × String, decide ((!e.1.same p) = true ∧ e.1.same q = true) =
        e.1.same q := by
      intro e
      cases hq : e.1.same q with
      | false => simp
      | true => simp [hkept e hq]
    rw [Bool.eq_false_iff.mpr (mt Path.same_iff.mp hpq), if_neg hpq, List.find?_filter]
    simp only [hfind, find?]

theorem isDirectory_iff : m.isDirectory p ↔ ∃ e ∈ m.entries, p.IsAbove e.1 := by
  rw [isDirectory, List.any_eq_true]
  refine exists_congr fun e => and_congr_right fun _ => ?_
  rw [Bool.and_eq_true, Bool.not_eq_true', ← Bool.not_eq_true, Path.same_iff, Path.startsWith_iff,
    and_comm, eq_comm, Path.IsAbove]

theorem isDirectory_insert_iff :
    (m.insert p text).isDirectory q ↔ q.IsAbove p ∨ m.isDirectory q := by
  simp only [isDirectory_iff, insert, List.exists_mem_cons_iff]
  constructor
  · rintro (h | ⟨e, he, h⟩)
    · exact .inl h
    · exact .inr ⟨e, List.mem_of_mem_filter he, h⟩
  · rintro (h | ⟨e, he, h⟩)
    · exact .inl h
    · -- an entry that is replaced stands where the new one stands
      by_cases hsame : e.1.same p
      · exact .inl ((Path.isAbove_congr (Path.same_iff.mp hsame)).mp h)
      · exact .inr ⟨e, List.mem_filter.mpr ⟨he, by simp [hsame]⟩, h⟩

/-! ## A sequence of insertions -/

theorem insertAll_cons (m : MemoryFiles) (e : Path × String) (files : List (Path × String)) :
    m.insertAll (e :: files) = (m.insert e.1 e.2).insertAll files :=
  rfl

theorem find?_insertAll_eq_none_iff : (m.insertAll files).find? p = none ↔
    (∀ e ∈ files, e.1.components ≠ p.components) ∧ m.find? p = none := by
  induction files generalizing m with
  | nil => simp [insertAll]
  | cons e files ih =>
    rw [insertAll_cons, ih, find?_insert, List.forall_mem_cons]
    by_cases he : e.1.components = p.components <;> simp [he]

/-- **What is at a path** after insertions is the last text that was put there. -/
theorem find?_insertAll_eq_some_iff : (m.insertAll files).find? p = some text ↔
    LastAt p text files ∨
      (∀ e ∈ files, e.1.components ≠ p.components) ∧ m.find? p = some text := by
  induction files generalizing m with
  | nil => simp [insertAll, not_lastAt_nil]
  | cons e files ih =>
    rw [insertAll_cons, ih, find?_insert, lastAt_cons_iff, List.forall_mem_cons, or_assoc]
    by_cases he : e.1.components = p.components <;> simp [he]

/-- **The directories** after insertions. -/
theorem isDirectory_insertAll_iff : (m.insertAll files).isDirectory p ↔
    (∃ e ∈ files, p.IsAbove e.1) ∨ m.isDirectory p := by
  induction files generalizing m with
  | nil => simp [insertAll]
  | cons e files ih =>
    rw [insertAll_cons, ih, isDirectory_insert_iff, List.exists_mem_cons_iff, or_assoc,
      or_left_comm]

/-! ## What is there -/

theorem isThere_iff : m.isThere p ↔ (∃ text, m.find? p = some text) ∨ m.isDirectory p := by
  rw [isThere, Bool.or_eq_true, Option.isSome_iff_exists]

/-- **What is above something that is there** is a directory. -/
theorem isDirectory_of_isAbove (h : m.isThere p) (hq : q.IsAbove p) : m.isDirectory q := by
  rw [isDirectory_iff]
  obtain ⟨text, hfind⟩ | hdir := isThere_iff.mp h
  · obtain ⟨e, he, -⟩ := Option.map_eq_some_iff.mp hfind
    have hsame : e.1.same p = true := by simpa using List.find?_some he
    exact ⟨e, List.mem_of_find?_eq_some he, (Path.isAbove_congr (Path.same_iff.mp hsame)).mpr hq⟩
  · obtain ⟨e, he, hp⟩ := isDirectory_iff.mp hdir
    exact ⟨e, he, hq.trans hp.1⟩

theorem read_eq_ok_iff : m.read p = .ok text ↔ m.find? p = some text := by
  unfold read
  cases m.find? p <;> simp

theorem read_eq_error_iff {cause : AccessFailure} : m.read p = .error cause ↔
    m.find? p = none ∧ cause = ⟨.notFound, p.text ++ " not in memory file system"⟩ := by
  unfold read
  cases m.find? p <;> simp [eq_comm]

end MemoryFiles

end TestLocator.Files
