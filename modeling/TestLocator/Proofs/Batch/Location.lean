import Mathlib.Data.List.TakeWhile
import TestLocator.Batch.Row
import TestLocator.Proofs.Files.Below
import TestLocator.Proofs.Text.Trimming

/-!
# Where the file of a row is

A repository may be told by its name or by an address that ends in it, and a path in it may start
with slashes of either kind.

* `IsName`, `SpellsRepository`, `SpellsRepository.usable?` — the name of a repository;
* `IsFragment`, `SpellsFile`, `SpellsFile.usable?` — the path in it;
* `resolvePath_eq_ok_iff`, `resolvePath_malformed` — when a row tells a file, and which, and what it is
  told else;
* **`resolvePath_below`** — this file is below the root, whatever the row tells, and it is the one
  of the name and the path, however they are written.
-/

namespace TestLocator.Batch

open TestLocator.Files TestLocator.Text

theorem usable?_of_trim {cs ds : List Char} (h : trim cs = ds) (hne : ds ≠ []) :
    usable? (some (.ofList cs)) = some ds := by
  rw [usable?, Option.map_some, String.toList_ofList, h]
  exact Option.filter_eq_some_iff.mpr ⟨rfl, by simpa using hne⟩

/-! ## Names of repositories -/

/-- A text is the name of a repository. -/
structure IsName (name : List Char) : Prop where
  ne_nil : name ≠ []
  slash_notMem : '/' ∉ name
  trimmed : Trimmed name

/-- A text tells the repository of a name: blanks may be around it, slashes may follow the name, and
anything that ends in a slash may be in front of it. -/
inductive SpellsRepository (name : List Char) : List Char → Prop
  | intro {before lead after : List Char} (slashes : Nat) : (∀ c ∈ before, isBlank c) →
    (∀ c ∈ lead.head?, ¬ isBlank c) → (lead = [] ∨ lead.getLast? = some '/') →
    (∀ c ∈ after, isBlank c) →
    SpellsRepository name (before ++ ((lead ++ name ++ List.replicate slashes '/') ++ after))

theorem shortName_append {name lead : List Char} (hname : IsName name)
    (hlead : lead = [] ∨ lead.getLast? = some '/') (slashes : Nat) :
    shortName (lead ++ name ++ List.replicate slashes '/') = name := by
  have hlast : ∀ c ∈ (lead ++ name).getLast?, ¬ c = '/' := by
    rw [List.getLast?_append_of_ne_nil lead hname.ne_nil]
    rintro c hc rfl
    exact hname.slash_notMem (List.mem_of_getLast? hc)
  have hslashes : dropEndWhile (· = '/') (lead ++ name ++ List.replicate slashes '/') =
      lead ++ name := dropEndWhile_append (by simpa using hlast) (by simp)
  have hkeep : ∀ c ∈ name.reverse, decide (c ≠ '/') := fun c hc => decide_eq_true <| by
    rintro rfl
    exact hname.slash_notMem (List.mem_reverse.mp hc)
  have hstop : lead.reverse.takeWhile (· ≠ '/') = [] := by
    obtain rfl | hlead := hlead
    · rfl
    · obtain ⟨rest, rfl⟩ := List.getLast?_eq_some_iff.mp hlead
      simp
  rw [shortName, hslashes, List.reverse_append, List.takeWhile_append_of_pos hkeep, hstop,
    List.append_nil, List.reverse_reverse]

theorem head?_shortName (repository : List Char) : (shortName repository).head? ≠ some '/' :=
  fun h => by
    have hmem := List.mem_reverse.mp (List.mem_of_mem_head? h)
    simpa using List.mem_takeWhile_imp hmem

theorem SpellsRepository.usable? {name repository : List Char} (hname : IsName name)
    (h : SpellsRepository name repository) :
    ∃ cs, Batch.usable? (some (.ofList repository)) = some cs ∧ shortName cs = name := by
  obtain @⟨before, lead, after, slashes, hbefore, hfirst, hlead, hafter⟩ := h
  have hlast : ∀ c ∈ lead.getLast?, ¬ isBlank c := by
    obtain rfl | hlead := hlead
    · rintro _ ⟨⟩
    · rw [hlead]
      rintro c ⟨⟩
      decide
  have hslashes : Trimmed (List.replicate slashes '/') := trimmed_of_no_blank fun c hc => by
    rw [(List.mem_replicate.mp hc).2]
    decide
  have hlead' : Trimmed lead := ⟨hfirst, hlast⟩
  have htrim := trim_append hbefore ((hlead'.append hname.trimmed).append hslashes) hafter
  exact ⟨_, usable?_of_trim htrim (by simp [hname.ne_nil]), shortName_append hname hlead slashes⟩

/-! ## Paths in repositories -/

/-- A slash of either kind. -/
def isSlash (c : Char) : Bool := c = '/' ∨ c = '\\'

/-- A text is a path in a repository. -/
structure IsFragment (f : List Char) : Prop where
  ne_nil : f ≠ []
  relative : ∀ c ∈ f.head?, ¬ isSlash c
  trimmed : Trimmed f

/-- A text tells a path in a repository: blanks may be around it and slashes in front of it. -/
inductive SpellsFile (f : List Char) : List Char → Prop
  | intro {before slashes after : List Char} : (∀ c ∈ before, isBlank c) →
    (∀ c ∈ slashes, isSlash c) → (∀ c ∈ after, isBlank c) →
    SpellsFile f (before ++ ((slashes ++ f) ++ after))

theorem SpellsFile.usable? {f file : List Char} (hf : IsFragment f) (h : SpellsFile f file) :
    ∃ cs, Batch.usable? (some (.ofList file)) = some cs ∧ fragment cs = f := by
  obtain @⟨before, slashes, after, hbefore, hslashes, hafter⟩ := h
  have hblank : Trimmed slashes := trimmed_of_no_blank fun c hc => by
    have hc := hslashes c hc
    simp only [isSlash, decide_eq_true_eq] at hc
    obtain rfl | rfl := hc <;> decide
  have htrim := trim_append hbefore (hblank.append hf.trimmed) hafter
  exact ⟨_, usable?_of_trim htrim (by simp [hf.ne_nil]), dropWhile_append hslashes hf.relative⟩

theorem head?_fragment (file : List Char) : (fragment file).head? ≠ some '/' := fun h => by
  have hhead := List.head?_dropWhile_not (fun c => c = '/' ∨ c = '\\') file
  rw [← fragment, h] at hhead
  exact absurd hhead (by decide)

/-! ## Files -/

variable {row : SmellRow} {root path : Path}

theorem resolvePath_of_usable {repository file : List Char}
    (hrepository : usable? row.repository = some repository)
    (hfile : usable? row.file = some file) (hname : shortName repository ≠ []) :
    row.resolvePath root =
      .ok ((root.join (.ofList (shortName repository))).join (.ofList (fragment file))) := by
  obtain ⟨c, cs, hcs⟩ := List.exists_cons_of_ne_nil hname
  simp only [SmellRow.resolvePath, hrepository, hfile, hcs]

theorem resolvePath_eq_ok_iff :
    row.resolvePath root = .ok path ↔ ∃ repository file, usable? row.repository = some repository ∧
      usable? row.file = some file ∧ shortName repository ≠ [] ∧
      path = (root.join (.ofList (shortName repository))).join (.ofList (fragment file)) := by
  constructor
  · intro h
    cases hrepository : usable? row.repository with
    | none => simp [SmellRow.resolvePath, hrepository] at h
    | some repository =>
      cases hfile : usable? row.file with
      | none => simp [SmellRow.resolvePath, hrepository, hfile] at h
      | some file =>
        by_cases hname : shortName repository = []
        · simp [SmellRow.resolvePath, hrepository, hfile, hname] at h
        · rw [resolvePath_of_usable hrepository hfile hname] at h
          exact ⟨repository, file, rfl, rfl, hname, (Except.ok.inj h).symm⟩
  · rintro ⟨repository, file, hrepository, hfile, hname, rfl⟩
    exact resolvePath_of_usable hrepository hfile hname

theorem resolvePath_malformed {e : Locating.Failure} (h : row.resolvePath root = .error e) :
    e.kind = .malformedInput := by
  unfold SmellRow.resolvePath at h
  split at h
  · cases h
    rfl
  · split at h
    · cases h
      rfl
    · split at h
      · cases h
        rfl
      · cases h

/-- **The file of a row is below the root**, where its repository and its path lead. -/
theorem resolvePath_below (root : Path) :
    (∀ name f repository file, IsName name → IsFragment f → SpellsRepository name repository →
      SpellsFile f file → ∀ lines,
        SmellRow.resolvePath ⟨some (.ofList repository), some (.ofList file), lines⟩ root =
          .ok ⟨.ofList (Path.below (Path.below root.text.toList name) f)⟩) ∧
    ∀ row path, SmellRow.resolvePath row root = .ok path → root.components <+: path.components := by
  constructor
  · intro name f repository file hname hf hrepository hfile lines
    obtain ⟨cs, hcs, rfl⟩ := hrepository.usable? hname
    obtain ⟨ds, hds, rfl⟩ := hfile.usable? hf
    rw [resolvePath_of_usable hcs hds hname.ne_nil, Path.join_eq_below (head?_shortName cs),
      Path.join_eq_below (head?_fragment ds), String.toList_ofList]
  · intro row path h
    obtain ⟨repository, file, -, -, -, rfl⟩ := resolvePath_eq_ok_iff.mp h
    exact (Path.prefix_components_join (head?_shortName repository)).trans
      (Path.prefix_components_join (head?_fragment file))

/-- An address with slashes behind it, and a path with slashes of both kinds in front of it. -/
theorem resolvePath_below_address :
    IsName "ncc".toList ∧ IsFragment "test/a.js".toList ∧
    SpellsRepository "ncc".toList "\t https://github.com/owner/ncc// ".toList ∧
    SpellsFile "test/a.js".toList "/\\/test/a.js\n".toList ∧
    SmellRow.resolvePath ⟨some "\t https://github.com/owner/ncc// ", some "/\\/test/a.js\n", none⟩
      ⟨"/projects"⟩ = .ok ⟨"/projects/ncc/test/a.js"⟩ ∧
    (⟨"/projects"⟩ : Path).components <+: (⟨"/projects/ncc/test/a.js"⟩ : Path).components := by
  have hname : IsName "ncc".toList := ⟨by decide, by decide, by decide⟩
  have hfile : IsFragment "test/a.js".toList :=
    ⟨by decide, by rintro _ ⟨⟩; decide, by decide⟩
  have hrepository : SpellsRepository "ncc".toList "\t https://github.com/owner/ncc// ".toList :=
    @SpellsRepository.intro _ "\t ".toList "https://github.com/owner/".toList " ".toList 2
      (List.all_eq_true.mp (by decide)) (by rintro _ ⟨⟩; decide) (.inr (by decide))
      (List.all_eq_true.mp (by decide))
  have hpath : SpellsFile "test/a.js".toList "/\\/test/a.js\n".toList :=
    @SpellsFile.intro _ [] "/\\/".toList "\n".toList (List.forall_mem_nil _)
      (List.all_eq_true.mp (by decide)) (List.all_eq_true.mp (by decide))
  obtain ⟨hresolve, hbelow⟩ := resolvePath_below ⟨"/projects"⟩
  have hrow := hresolve _ _ _ _ hname hfile hrepository hpath none
  exact ⟨hname, hfile, hrepository, hpath, hrow, hbelow _ _ hrow⟩

end TestLocator.Batch
