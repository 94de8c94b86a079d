import TestLocator.Proofs.Config.Nearest
import TestLocator.Proofs.Files.Ancestors

/-!
# The directories that are searched

The bound of the search counts directories, and the start is one of them: the start and its first
nine ancestors are searched, or as many as there are. The tenth ancestor is not.

* `SilentBelow` — no directory less than some levels up tells settings;
* `among_levels`, `among_of_tells` — what a bounded search finds, in levels;
* **`loadSettings_window`** — what the search for settings finds, on what it depends, and when one
  directory more would change it.
-/

namespace TestLocator.Config

open TestLocator.Files

/-- No directory less than `n` levels above `start` tells settings. -/
def SilentBelow (d : Disk) (start : Path) (n : Nat) : Prop :=
  ∀ k < n, ∀ p, start.above? k = some p → Silent d p

section

variable {d d' : Disk} {start p : Path} {near far ps : List Path} {n k : Nat} {s t : Settings}

/-! ## Levels -/

theorem mem_ancestors_iff : p ∈ start.ancestors n ↔ ∃ k < n, start.above? k = some p := by
  rw [List.mem_iff_getElem?]
  refine exists_congr fun k => ?_
  rw [Path.getElem?_ancestors]
  split_ifs with hk
  · exact (and_iff_right hk).symm
  · exact iff_of_false nofun fun h => hk h.1

theorem silentBelow_iff : SilentBelow d start n ↔ ∀ p ∈ start.ancestors n, Silent d p := by
  constructor
  · intro h p hp
    obtain ⟨k, hk, hp⟩ := mem_ancestors_iff.mp hp
    exact h k hk p hp
  · exact fun h k hk p hp => h p (mem_ancestors_iff.mpr ⟨k, hk, hp⟩)

theorem above?_of_ancestors (h : start.ancestors n = near ++ p :: far) :
    near.length < n ∧ start.above? near.length = some p ∧
      ∀ k < near.length, ∀ q, start.above? k = some q → q ∈ near := by
  have hget (k : Nat) := Path.getElem?_ancestors n k start
  simp only [h] at hget
  have hp := hget near.length
  rw [List.getElem?_append_right (Nat.le_refl _), Nat.sub_self, List.getElem?_cons_zero] at hp
  split_ifs at hp with hlt
  refine ⟨hlt, hp.symm, fun k hk q hq => ?_⟩
  have hnear := hget k
  rw [List.getElem?_append_left hk, if_pos (Nat.lt_trans hk hlt), hq] at hnear
  exact List.mem_of_getElem? hnear

instance (d : Disk) (p : Path) (s : Settings) : Decidable (Tells d p s) :=
  decidable_of_iff _ settingsAt?_eq_some_iff

instance (d : Disk) (start : Path) (n : Nat) : Decidable (SilentBelow d start n) :=
  decidable_of_iff (∀ p ∈ start.ancestors n, settingsAt? d (configPath p) = none)
    (by simp only [settingsAt?_eq_none_iff, silentBelow_iff])

theorem Tells.unique (hs : Tells d p s) (ht : Tells d p t) : s = t :=
  Option.some.inj ((settingsAt?_eq_some_iff.mpr hs).symm.trans (settingsAt?_eq_some_iff.mpr ht))

/-! ## What a bounded search finds -/

/-- Either no directory in reach tells settings, or the nearest one that does decides. -/
theorem among_levels (d : Disk) (start : Path) (n : Nat) :
    (SilentBelow d start n ∧ among d (start.ancestors n) = none) ∨
    ∃ k < n, ∃ p s, start.above? k = some p ∧ SilentBelow d start k ∧ Tells d p s ∧
      among d (start.ancestors n) = some s := by
  obtain ⟨hsilent, hamong⟩ | ⟨near, p, far, s, hps, hnear, hp, hamong⟩ :=
    among_cases d (start.ancestors n)
  · exact .inl ⟨silentBelow_iff.mpr hsilent, hamong⟩
  · obtain ⟨hlt, hlevel, hbelow⟩ := above?_of_ancestors hps
    exact .inr ⟨near.length, hlt, p, s, hlevel, fun k hk q hq => hnear q (hbelow k hk q hq), hp,
      hamong⟩

theorem among_of_silentBelow (h : SilentBelow d start n) : among d (start.ancestors n) = none := by
  obtain ⟨-, hamong⟩ | ⟨k, hk, p, s, hp, -, htells, -⟩ := among_levels d start n
  · exact hamong
  · exact absurd htells (h k hk p hp s)

theorem among_of_tells (hk : k < n) (hp : start.above? k = some p) (hs : Tells d p s)
    (h : SilentBelow d start k) : among d (start.ancestors n) = some s := by
  obtain ⟨hsilent, -⟩ | ⟨j, -, q, t, hq, hbelow, ht, hamong⟩ := among_levels d start n
  · exact absurd hs (hsilent k hk p hp s)
  · -- neither of the two directories is nearer than the other one
    obtain hjk | rfl | hkj := Nat.lt_trichotomy j k
    · exact absurd ht (h j hjk q hq t)
    · cases Option.some.inj (hp.symm.trans hq)
      rw [hamong, hs.unique ht]
    · exact absurd hs (hbelow k hkj p hp s)

theorem among_congr (h : ∀ p ∈ ps, ReadsAlike d d' p) : among d' ps = among d ps := by
  induction ps with
  | nil => rfl
  | cons p ps ih =>
    obtain ⟨hp, hps⟩ := List.forall_mem_cons.mp h
    have hread : settingsAt? d' (configPath p) = settingsAt? d (configPath p) := by
      rw [settingsAt?, hp, settingsAt?]
    have hrest := ih hps
    rw [among] at hrest ⊢
    rw [List.findSome?_cons, hread, hrest, among, among, List.findSome?_cons]

theorem among_succ_ne_iff :
    among d (start.ancestors (n + 1)) ≠ among d (start.ancestors n) ↔
      SilentBelow d start n ∧ ∃ p s, start.above? n = some p ∧ Tells d p s := by
  constructor
  · intro hne
    obtain ⟨hsilent, hamong⟩ | ⟨k, hk, p, s, hp, hbelow, hs, hamong⟩ := among_levels d start (n + 1)
    · rw [hamong, among_of_silentBelow fun k hk => hsilent k (Nat.lt_succ_of_lt hk)] at hne
      exact absurd rfl hne
    · obtain hkn | rfl := Nat.lt_succ_iff_lt_or_eq.mp hk
      · rw [hamong, among_of_tells hkn hp hs hbelow] at hne
        exact absurd rfl hne
      · exact ⟨hbelow, p, s, hp, hs⟩
  · rintro ⟨hbelow, p, s, hp, hs⟩
    rw [among_of_silentBelow hbelow, among_of_tells n.lt_succ_self hp hs hbelow]
    nofun

end

/-! ## The search for settings -/

/-- **What the search for settings finds**: the nearest ones, up to nine levels above the start. -/
theorem loadSettings_window (d : Disk) (start : Path) :
    (∀ k, ((start.above? k).isSome ↔ k ≤ start.depth) ∧
      ∀ p, start.above? k = some p →
        ∃ gone : List Component, gone.length = k ∧ .root ∉ gone ∧
          start.components = p.components ++ gone) ∧
    (SilentBelow d start 10 ∧ loadSettings d start = {} ∨
      ∃ k ≤ 9, ∃ p s, start.above? k = some p ∧ SilentBelow d start k ∧ Tells d p s ∧
        loadSettings d start = s) ∧
    (∀ k ≤ 9, ∀ p s, start.above? k = some p → Tells d p s →
      (∀ j ≤ 9, j ≠ k → ∀ q, start.above? j = some q → Silent d q) → loadSettings d start = s) ∧
    (∀ d', (∀ k ≤ 9, ∀ p, start.above? k = some p → ReadsAlike d d' p) →
      loadSettings d' start = loadSettings d start) ∧
    (among d (start.ancestors 11) ≠ among d (start.ancestors 10) ↔
      SilentBelow d start 10 ∧ ∃ p s, start.above? 10 = some p ∧ Tells d p s) := by
  have hload (d : Disk) : loadSettings d start = (among d (start.ancestors 10)).getD {} := rfl
  refine ⟨fun k => ⟨Path.isSome_above?_iff, fun p => Path.components_of_above?⟩, ?_,
    fun k hk p s hp hs halone => ?_, fun d' h => ?_, among_succ_ne_iff⟩
  · obtain ⟨hsilent, hamong⟩ | ⟨k, hk, p, s, hp, hbelow, hs, hamong⟩ := among_levels d start 10
    · exact .inl ⟨hsilent, by rw [hload, hamong, Option.getD_none]⟩
    · exact .inr ⟨k, Nat.le_of_lt_succ hk, p, s, hp, hbelow, hs, by
        rw [hload, hamong, Option.getD_some]⟩
  · have hbelow : SilentBelow d start k := fun j hj =>
      halone j (Nat.le_trans (Nat.le_of_lt hj) hk) (Nat.ne_of_lt hj)
    rw [hload, among_of_tells (Nat.lt_succ_of_le hk) hp hs hbelow, Option.getD_some]
  · have hread : ∀ p ∈ start.ancestors 10, ReadsAlike d d' p := by
      intro p hp
      obtain ⟨k, hk, hp⟩ := mem_ancestors_iff.mp hp
      exact h k (Nat.le_of_lt_succ hk) p hp
    rw [hload, hload, among_congr hread]

/-- Ten directories, one in the other, below a configuration file. -/
def stairs : Disk :=
  let deep : Spot := [['j'], ['i'], ['h'], ['g'], ['f'], ['e'], ['d'], ['c'], ['b'], ['a']]
  let file : Entry := .file (Text.encode "[batch]\njobs = 4\n".toList)
  (Disk.install {} deep .directory).install [configName.toList] file

/-- The file is found from nine levels below it. -/
theorem loadSettings_window_ninth : loadSettings stairs ⟨"a/b/c/d/e/f/g/h/i"⟩ = { jobs := 4 } := by
  have hfile : Path.above? 9 ⟨"a/b/c/d/e/f/g/h/i"⟩ = some ⟨""⟩ := by decide +kernel
  have htells : Tells stairs ⟨""⟩ { jobs := 4 } := by decide +kernel
  have hsilent : SilentBelow stairs ⟨"a/b/c/d/e/f/g/h/i"⟩ 9 := by decide +kernel
  refine (loadSettings_window stairs ⟨"a/b/c/d/e/f/g/h/i"⟩).2.2.1 9 (Nat.le_refl 9) ⟨""⟩ _ hfile
    htells fun j hj hne => hsilent j (Nat.lt_of_le_of_ne hj hne)

/-- The file is missed from ten levels below it, although no other directory tells settings. -/
theorem loadSettings_tenth_missed :
    Path.above? 10 ⟨"a/b/c/d/e/f/g/h/i/j"⟩ = some ⟨""⟩ ∧ Tells stairs ⟨""⟩ { jobs := 4 } ∧
    SilentBelow stairs ⟨"a/b/c/d/e/f/g/h/i/j"⟩ 10 ∧
    loadSettings stairs ⟨"a/b/c/d/e/f/g/h/i/j"⟩ = {} ∧ ({} : Settings) ≠ { jobs := 4 } := by
  decide +kernel

end TestLocator.Config
