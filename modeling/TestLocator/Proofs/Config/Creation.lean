import TestLocator.Proofs.Config.Nearest
import TestLocator.Proofs.Files.Places

/-!
# New configuration files

Users write configuration files as they like, and the program writes one that says the defaults. It
does so only in a directory that is there, and over a file only if it is told to. So a file is lost
to nobody but a user, or the program with this permission.

* `Step`, `Step.after`, `afterAll` — what is done to configuration files, and the disk after it;
* `Step.Writes`, `Step.perform_eq_ok_iff` — the steps that write a file, and what they write;
* `Created`, `created_put` — what a new configuration file changes;
* `entry?_afterAll` — the files that stay;
* **`initSettings_keeps`** — any course of such steps.
-/

namespace TestLocator.Config

open TestLocator.Files TestLocator.Text

/-! ## Steps -/

/-- Something that is done to the configuration file of a directory. -/
inductive Step where
  /-- A user writes it. -/
  | edit (directory : Path) (content : Bytes)
  /-- The program writes it. -/
  | init (directory : Path) (force : Bool)

namespace Step

/-- The directory of the file. -/
def directory : Step → Path
  | edit directory _ | init directory _ => directory

/-- What the step puts into the file. -/
def content : Step → Bytes
  | edit _ content => content
  | init _ _ => encode defaultText.toList

/-- Whether the step may write over a file. -/
def overwrites : Step → Bool
  | edit _ _ => true
  | init _ force => force

/-- The disk with the file written, or why it cannot be written. -/
def perform (d : Disk) : Step → Except InitFailure Disk
  | edit directory content =>
    (d.write (configPath directory) content).mapError (.notWritten (configPath directory))
  | init directory force => initSettings d directory force

/-- The disk after the step. -/
def after (d : Disk) (s : Step) : Disk :=
  match s.perform d with
  | .ok d => d
  | .error _ => d

/-- The step writes the file at a spot: the directory takes the file in, and nothing is there unless
the step may write over it. -/
def Writes (d : Disk) (s : Step) (spot : Spot) : Prop :=
  ∃ t, Disk.Receives d s.directory configName.toList t ∧ spot = configName.toList :: t ∧
    (s.overwrites = true ∨ d.entry? spot = none)

end Step

/-- The disk after several steps, one after the other. -/
def afterAll (d : Disk) (steps : List Step) : Disk := steps.foldl Step.after d

section

variable {d d' : Disk} {directory : Path} {spot : Spot} {content : Bytes} {force : Bool} {s : Step}

/-! ## What a step writes -/

theorem isFileName_configName : Disk.IsFileName configName.toList :=
  ⟨by decide +kernel, by decide +kernel, by decide +kernel⟩

theorem resolveNew_configPath_iff : d.resolveNew (configPath directory) = .ok spot ↔
    ∃ t, Disk.Receives d directory configName.toList t ∧ spot = configName.toList :: t := by
  rw [← Disk.resolveNew_join_iff isFileName_configName, String.ofList_toList, configPath]

theorem isThere_configPath {t : Spot} (h : Disk.Receives d directory configName.toList t) :
    d.isThere (configPath directory) = (d.entry? (configName.toList :: t)).isSome := by
  rw [← Disk.isThere_join isFileName_configName h, String.ofList_toList, configPath]

theorem write_eq_ok_iff : d.write (configPath directory) content = .ok d' ↔
    ∃ spot, d.resolveNew (configPath directory) = .ok spot ∧ d' = d.put spot (.file content) := by
  cases h : d.resolveNew (configPath directory) with
  | ok spot =>
    rw [Disk.write_of_resolveNew h]
    simp [eq_comm]
  | error e =>
    rw [Disk.write_of_resolveNew_error h]
    simp

theorem perform_edit_eq_ok_iff : (Step.edit directory content).perform d = .ok d' ↔
    d.write (configPath directory) content = .ok d' := by
  rw [Step.perform]
  cases d.write (configPath directory) content <;> simp [Except.mapError]

theorem perform_init_eq_ok_iff : (Step.init directory force).perform d = .ok d' ↔
    (force = true ∨ d.isThere (configPath directory) = false) ∧
      d.write (configPath directory) (encode defaultText.toList) = .ok d' := by
  rw [Step.perform, initSettings]
  cases force with
  | true => cases d.write (configPath directory) (encode defaultText.toList) <;> simp
  | false =>
    cases d.isThere (configPath directory) with
    | true => simp
    | false => cases d.write (configPath directory) (encode defaultText.toList) <;> simp

/-- **A step succeeds** exactly if it writes a file. -/
theorem Step.perform_eq_ok_iff :
    s.perform d = .ok d' ↔ ∃ spot, s.Writes d spot ∧ d' = d.put spot (.file s.content) := by
  cases s with
  | edit directory content =>
    rw [perform_edit_eq_ok_iff, write_eq_ok_iff]
    refine exists_congr fun spot => and_congr_left' ?_
    rw [resolveNew_configPath_iff]
    exact exists_congr fun t => and_congr_right' (iff_self_and.mpr fun _ => .inl rfl)
  | init directory force =>
    rw [perform_init_eq_ok_iff, write_eq_ok_iff]
    constructor
    · rintro ⟨hthere, spot, hspot, rfl⟩
      obtain ⟨t, ht, rfl⟩ := resolveNew_configPath_iff.mp hspot
      rw [isThere_configPath ht, Option.isSome_eq_false_iff, Option.isNone_iff_eq_none] at hthere
      exact ⟨_, ⟨t, ht, rfl, hthere⟩, rfl⟩
    · rintro ⟨spot, ⟨t, (ht : Disk.Receives d directory configName.toList t), rfl, hthere⟩, rfl⟩
      refine ⟨?_, _, resolveNew_configPath_iff.mpr ⟨t, ht, rfl⟩, rfl⟩
      rwa [isThere_configPath ht, Option.isSome_eq_false_iff, Option.isNone_iff_eq_none]

theorem Step.after_cases (d : Disk) (s : Step) :
    ((∃ cause, s.perform d = .error cause) ∧ s.after d = d ∧ ∀ spot, ¬ s.Writes d spot) ∨
      ∃ spot, s.Writes d spot ∧ s.perform d = .ok (d.put spot (.file s.content)) ∧
        s.after d = d.put spot (.file s.content) := by
  cases h : s.perform d with
  | ok d' =>
    obtain ⟨spot, hwrites, rfl⟩ := perform_eq_ok_iff.mp h
    exact .inr ⟨spot, hwrites, rfl, by rw [after, h]⟩
  | error cause =>
    refine .inl ⟨⟨cause, rfl⟩, by rw [after, h], fun spot hwrites => ?_⟩
    cases h.symm.trans (perform_eq_ok_iff.mpr ⟨spot, hwrites, rfl⟩)

/-! ## What a new configuration file changes -/

/-- A configuration file that says the defaults has been put into a directory, where it decides the
settings. Nothing else has changed. -/
structure Created (d d' : Disk) (directory : Path) (spot : Spot) : Prop where
  readText_eq : d'.readText (configPath directory) = .ok defaultText
  entry_eq : d'.entry? spot = some (.file (encode defaultText.toList))
  frame : ∀ t ≠ spot, d'.entry? t = d.entry? t
  here_eq : d'.here = d.here
  loadSettings_eq : loadSettings d' directory = {}

theorem ofText?_defaultText : Settings.ofText? defaultText = some {} := by
  -- Line by line the characters of the text are at hand; those of the joined text are not.
  rw [Settings.ofText?]
  unfold defaultText
  iterate 12 rw [String.toList_append]
  decide +kernel

theorem loadSettings_of_tells {settings : Settings} (h : Tells d directory settings) :
    loadSettings d directory = settings := by
  obtain ⟨further, hfirst⟩ : ∃ further, directory.ancestors searchDepth = [] ++ directory :: further :=
    ⟨_, rfl⟩
  rw [loadSettings_eq, hfirst, among_append_cons (List.forall_mem_nil _) h, Option.getD_some]

theorem created_put (h : d.resolveNew (configPath directory) = .ok spot) :
    Created d (d.put spot (.file (encode defaultText.toList))) directory spot := by
  have hread := Disk.readText_put h defaultText
  obtain ⟨t, -, rfl⟩ := resolveNew_configPath_iff.mp h
  exact {
    readText_eq := hread
    entry_eq := Disk.entry?_put_self d _ (List.cons_ne_nil _ _)
    frame := fun t ht => Disk.entry?_put_of_ne d _ ht
    here_eq := Disk.here_put d _ _
    loadSettings_eq := loadSettings_of_tells ⟨_, hread, ofText?_defaultText⟩ }

/-- How the program fares with a new configuration file, and the disk after it. -/
inductive Attempted (d : Disk) (directory : Path) (force : Bool) : Disk → Prop
  /-- The directory does not take the file in, or a file is there that must not be written over. -/
  | refused {cause : InitFailure} : initSettings d directory force = .error cause →
    (∀ t, Disk.Receives d directory configName.toList t →
      force = false ∧ ∃ content, d.entry? (configName.toList :: t) = some (.file content)) →
    Attempted d directory force d
  /-- The file is written. Without permission to write over a file there was none. -/
  | written {d' : Disk} {t : Spot} : initSettings d directory force = .ok d' →
    Disk.Receives d directory configName.toList t →
    (force = false → d.isThere (configPath directory) = false ∧
      d.entry? (configName.toList :: t) = none) →
    Created d d' directory (configName.toList :: t) → Attempted d directory force d'

theorem attempted_init (d : Disk) (directory : Path) (force : Bool) :
    Attempted d directory force ((Step.init directory force).after d) := by
  obtain ⟨⟨cause, hfailed⟩, hsame, hnot⟩ | ⟨spot, ⟨t, ht, rfl, hthere⟩, hdone, hafter⟩ :=
    (Step.init directory force).after_cases d
  · rw [hsame]
    refine .refused hfailed fun t ht => ?_
    have hkept : ¬ (force = true ∨ d.entry? (configName.toList :: t) = none) := fun h =>
      hnot _ ⟨t, ht, rfl, h⟩
    obtain ⟨hforce, hentry⟩ := not_or.mp hkept
    refine ⟨Bool.eq_false_iff.mpr hforce, ?_⟩
    cases he : d.entry? (configName.toList :: t) with
    | none => exact absurd he hentry
    | some e =>
      cases e with
      | file content => exact ⟨content, rfl⟩
      | directory => exact absurd he ht.noDirectory
  · rw [hafter]
    refine .written hdone ht (fun hforce => ?_)
      (created_put (resolveNew_configPath_iff.mpr ⟨t, ht, rfl⟩))
    subst hforce
    have ht : Disk.Receives d directory configName.toList t := ht
    have hnone := hthere.resolve_left Bool.false_ne_true
    exact ⟨by rw [isThere_configPath ht, hnone]; rfl, hnone⟩

/-! ## Files that stay -/

theorem entry?_after (h : d.entry? spot = some (.file content)) (s : Step) :
    Disk.entry? (s.after d) spot = some (.file content) ∨ s.overwrites = true ∧ s.Writes d spot := by
  obtain ⟨-, hsame, -⟩ | ⟨target, hwrites, -, hafter⟩ := s.after_cases d
  · exact .inl (hsame.symm ▸ h)
  · by_cases htarget : spot = target
    · subst htarget
      obtain ⟨t, ht, hspot, hthere⟩ := hwrites
      refine .inr ⟨hthere.resolve_right fun hnone => ?_, t, ht, hspot, hthere⟩
      cases hnone.symm.trans h
    · rw [hafter, Disk.entry?_put_of_ne d _ htarget]
      exact .inl h

/-- **A file stays** through any course of steps, unless one of them may write over it. -/
theorem entry?_afterAll (h : d.entry? spot = some (.file content)) (steps : List Step) :
    Disk.entry? (afterAll d steps) spot = some (.file content) ∨
      ∃ before s rest, steps = before ++ s :: rest ∧ s.overwrites = true ∧
        s.Writes (afterAll d before) spot := by
  induction steps generalizing d with
  | nil => exact .inl h
  | cons s steps ih =>
    obtain hkept | ⟨hover, hwrites⟩ := entry?_after h s
    · refine (ih hkept).imp_right fun ⟨before, s', rest, hsteps, hover, hwrites⟩ => ?_
      exact ⟨s :: before, s', rest, by rw [hsteps, List.cons_append], hover, hwrites⟩
    · exact .inr ⟨[], s, steps, rfl, hover, hwrites⟩

end

/-- **A configuration file is not lost to the program**, whatever is written before and after. -/
theorem initSettings_keeps (d : Disk) (steps : List Step) :
    (∀ directory force, Attempted (afterAll d steps) directory force
      ((Step.init directory force).after (afterAll d steps))) ∧
    ∀ spot content, Disk.entry? (afterAll d steps) spot = some (.file content) → ∀ later,
      Disk.entry? (afterAll d (steps ++ later)) spot = some (.file content) ∨
        ∃ before s rest, later = before ++ s :: rest ∧ s.overwrites = true ∧
          s.Writes (afterAll d (steps ++ before)) spot := by
  have happend : ∀ later, afterAll d (steps ++ later) = afterAll (afterAll d steps) later :=
    fun _ => List.foldl_append
  refine ⟨attempted_init _, fun spot content h later => ?_⟩
  simp only [happend]
  exact entry?_afterAll h later

end TestLocator.Config
