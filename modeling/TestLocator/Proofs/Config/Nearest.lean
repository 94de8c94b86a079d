import Mathlib.Data.List.Basic
import TestLocator.Config.Files

/-!
# The nearest configuration file

The directories are asked from the start upwards. A file that cannot be read and a file that tells
no settings are passed over alike, so it is the first *usable* file that decides, which need not be
the first one that can be read.

* `Unread`, `Tells`, `Silent` — what the configuration file of a directory is worth;
* `among` — the settings that some directories have, the first one first;
* **`loadSettings_nearest`** — what the nearest file that can be read decides: everything if it
  tells settings, and nothing if it does not.
-/

namespace TestLocator.Config

open TestLocator.Files

/-- The configuration file of a directory cannot be read as a text: most often there is none. -/
def Unread (d : Disk) (p : Path) : Prop := ∃ cause, d.readText (configPath p) = .error cause

/-- The configuration file of a directory can be read, and it tells settings. -/
def Tells (d : Disk) (p : Path) (s : Settings) : Prop :=
  ∃ text, d.readText (configPath p) = .ok text ∧ Settings.ofText? text = some s

/-- The configuration file of a directory tells no settings, be it that there is none. -/
def Silent (d : Disk) (p : Path) : Prop := ∀ s, ¬ Tells d p s

/-- On two disks, the configuration file of a directory reads the same. -/
def ReadsAlike (d d' : Disk) (p : Path) : Prop :=
  d'.readText (configPath p) = d.readText (configPath p)

/-! ## One directory -/

section Directory

variable {d d' : Disk} {p : Path} {s : Settings}

theorem settingsAt?_of_read {text : String} (h : d.readText (configPath p) = .ok text) :
    settingsAt? d (configPath p) = Settings.ofText? text := by
  simp only [settingsAt?, h]

theorem Unread.settingsAt? (h : Unread d p) : settingsAt? d (configPath p) = none := by
  obtain ⟨cause, h⟩ := h
  simp only [Config.settingsAt?, h]

theorem settingsAt?_eq_some_iff : settingsAt? d (configPath p) = some s ↔ Tells d p s := by
  constructor
  · intro h
    cases hread : d.readText (configPath p) with
    | ok text => exact ⟨text, hread, (settingsAt?_of_read hread).symm.trans h⟩
    | error cause => exact absurd ((Unread.settingsAt? ⟨cause, hread⟩).symm.trans h) nofun
  · rintro ⟨text, hread, htext⟩
    exact (settingsAt?_of_read hread).trans htext

theorem settingsAt?_eq_none_iff : settingsAt? d (configPath p) = none ↔ Silent d p := by
  simp only [Option.eq_none_iff_forall_ne_some, ne_eq, settingsAt?_eq_some_iff, Silent]

theorem Unread.silent (h : Unread d p) : Silent d p := settingsAt?_eq_none_iff.mp h.settingsAt?

theorem silent_of_broken {text : String} (hp : d.readText (configPath p) = .ok text)
    (h : Settings.ofText? text = none) : Silent d p :=
  settingsAt?_eq_none_iff.mp ((settingsAt?_of_read hp).trans h)

theorem Tells.of_readsAlike (hp : Tells d p s) (h : ReadsAlike d d' p) : Tells d' p s := by
  obtain ⟨text, hread, htext⟩ := hp
  exact ⟨text, Eq.trans h hread, htext⟩

theorem Unread.of_readsAlike (hp : Unread d p) (h : ReadsAlike d d' p) : Unread d' p := by
  obtain ⟨cause, hread⟩ := hp
  exact ⟨cause, Eq.trans h hread⟩

end Directory

/-! ## Several directories -/

/-- The settings of the first directory that has some. -/
def among (d : Disk) (ps : List Path) : Option Settings :=
  ps.findSome? fun p => settingsAt? d (configPath p)

theorem loadSettings_eq (d : Disk) (start : Path) :
    loadSettings d start = (among d (start.ancestors searchDepth)).getD {} :=
  rfl

section Several

variable {d d' : Disk} {near far ps : List Path} {p : Path} {s : Settings}

/-- Directories without settings do not count. -/
theorem among_append (h : ∀ q ∈ near, Silent d q) : among d (near ++ ps) = among d ps := by
  have hnone : ∀ q ∈ near, settingsAt? d (configPath q) = none := fun q hq =>
    settingsAt?_eq_none_iff.mpr (h q hq)
  rw [among, List.findSome?_append, List.findSome?_eq_none_iff.mpr hnone, Option.none_or, among]

theorem among_append_cons (hnear : ∀ q ∈ near, Silent d q) (hp : Tells d p s) :
    among d (near ++ p :: far) = some s := by
  rw [among_append hnear, among, List.findSome?_cons, settingsAt?_eq_some_iff.mpr hp]

theorem among_cases (d : Disk) (ps : List Path) :
    ((∀ p ∈ ps, Silent d p) ∧ among d ps = none) ∨
    ∃ near p far s, ps = near ++ p :: far ∧ (∀ q ∈ near, Silent d q) ∧ Tells d p s ∧
      among d ps = some s := by
  simp only [← settingsAt?_eq_none_iff, ← settingsAt?_eq_some_iff]
  cases h : among d ps with
  | none => exact .inl ⟨List.findSome?_eq_none_iff.mp h, rfl⟩
  | some s =>
    obtain ⟨near, p, far, hps, hp, hnear⟩ := List.findSome?_eq_some_iff.mp h
    exact .inr ⟨near, p, far, s, hps, hnear, hp, rfl⟩

end Several

/-! ## The nearest file -/

/-- **What the nearest configuration file decides**, also if it tells no settings. -/
theorem loadSettings_nearest {d : Disk} {start p : Path} {near far : List Path} {text : String}
    (hsearch : start.ancestors searchDepth = near ++ p :: far) (hnear : ∀ q ∈ near, Unread d q)
    (hp : d.readText (configPath p) = .ok text) :
    (∀ s, Settings.ofText? text = some s →
      loadSettings d start = s ∧
      ∀ d', (∀ q ∈ near ++ [p], ReadsAlike d d' q) → loadSettings d' start = s) ∧
    (Settings.ofText? text = none →
      ((∀ q ∈ far, Silent d q) ∧ loadSettings d start = {}) ∨
      ∃ between q beyond s, far = between ++ q :: beyond ∧ (∀ r ∈ between, Silent d r) ∧
        Tells d q s ∧ loadSettings d start = s) := by
  constructor
  · intro s hs
    -- the disk itself is one of those that have the same files up to `p`
    have halike : ∀ d', (∀ q ∈ near ++ [p], ReadsAlike d d' q) → loadSettings d' start = s := by
      intro d' h
      have hsilent : ∀ q ∈ near, Silent d' q := fun q hq =>
        ((hnear q hq).of_readsAlike (h q (List.mem_append_left _ hq))).silent
      have htells : Tells d' p s := Tells.of_readsAlike ⟨text, hp, hs⟩ (h p (by simp))
      rw [loadSettings_eq, hsearch, among_append_cons hsilent htells, Option.getD_some]
    exact ⟨halike d fun _ _ => rfl, halike⟩
  · intro hbroken
    have hsilent : ∀ q ∈ near ++ [p], Silent d q := by
      intro q hq
      rcases List.mem_append.mp hq with hq | hq
      · exact (hnear q hq).silent
      · rw [List.mem_singleton.mp hq]
        exact silent_of_broken hp hbroken
    have hload : loadSettings d start = (among d far).getD {} := by
      rw [loadSettings_eq, hsearch, List.append_cons, among_append hsilent]
    rw [hload]
    obtain ⟨hfar, hamong⟩ | ⟨between, q, beyond, s, hfar, hbetween, hq, hamong⟩ := among_cases d far
    · exact .inl ⟨hfar, by rw [hamong, Option.getD_none]⟩
    · exact .inr ⟨between, q, beyond, s, hfar, hbetween, hq, by rw [hamong, Option.getD_some]⟩

/-- Three directories, one in the other: the outermost two have a configuration file. -/
def nested (middle outer : String) : Disk where
  entries := [
    ([configName.toList], .file (Text.encode outer.toList)),
    ([['a']], .directory),
    ([configName.toList, ['a']], .file (Text.encode middle.toList)),
    ([['b'], ['a']], .directory)]

/-- Nothing is in `a/b`, so `a` decides, and what is above `a` may change. -/
theorem loadSettings_nearest_nested :
    loadSettings (nested "[batch]\njobs = 4\n" "batch = 3\n") ⟨"a/b"⟩ = { jobs := 4 } ∧
    loadSettings (nested "[batch]\njobs = 4\n" "[batch]\njobs = 7\n") ⟨"a/b"⟩ = { jobs := 4 } := by
  have hsearch : (⟨"a/b"⟩ : Path).ancestors searchDepth = [⟨"a/b"⟩] ++ ⟨"a"⟩ :: [⟨""⟩] := by
    decide +kernel
  have hnear : ∀ q ∈ [⟨"a/b"⟩], Unread (nested "[batch]\njobs = 4\n" "batch = 3\n") q :=
    List.forall_mem_singleton.mpr ⟨noSuchFile, rfl⟩
  have htext : Settings.ofText? "[batch]\njobs = 4\n" = some { jobs := 4 } := by decide +kernel
  obtain ⟨hload, hsame⟩ := (loadSettings_nearest hsearch hnear rfl).1 _ htext
  refine ⟨hload, hsame _ ?_⟩
  simp only [List.cons_append, List.nil_append, List.forall_mem_cons]
  exact ⟨rfl, rfl, nofun⟩

/-- The file of `a` tells no settings, so the directory above decides. -/
theorem loadSettings_nested_broken :
    (⟨"a/b"⟩ : Path).ancestors searchDepth = [⟨"a/b"⟩, ⟨"a"⟩, ⟨""⟩] ∧
    Unread (nested "batch = 3\n" "[batch]\njobs = 4\n") ⟨"a/b"⟩ ∧
    (nested "batch = 3\n" "[batch]\njobs = 4\n").readText (configPath ⟨"a"⟩) = .ok "batch = 3\n" ∧
    Settings.ofText? "batch = 3\n" = none ∧
    loadSettings (nested "batch = 3\n" "[batch]\njobs = 4\n") ⟨"a/b"⟩ = { jobs := 4 } ∧
    ({ jobs := 4 } : Settings) ≠ {} :=
  ⟨by decide +kernel, ⟨noSuchFile, rfl⟩, rfl, by decide +kernel, by decide +kernel, by decide⟩

end TestLocator.Config
