import Mathlib.Data.List.TakeWhile
import TestLocator.Proofs.Batch.Location

/-!
# Rows that tell a file

A row tells a file unless its repository has no name or its file is blank. A file that is nothing
but slashes is not blank, and what it tells is the directory of the repository.

* `HasName`, `HasFragment`, `OnlySlashes` — what the fields of a row may hold;
* `TellsName`, `TellsFragment` — the name and the path that they tell;
* `exists_resolvePath_iff` — when a row tells a file;
* **`resolvePath_told`** — the rows that tell a file, and whether it is one below the directory of
  the repository or this directory itself.
-/

namespace TestLocator.Batch

open TestLocator.Files TestLocator.Locating TestLocator.Text

/-! ## Fields -/

/-- Without blanks around it, a repository holds something else than slashes. -/
def HasName (repository : Option String) : Prop :=
  ∃ s, repository = some s ∧ ∃ c ∈ trim s.toList, c ≠ '/'

/-- Without blanks around it, a file holds something else than slashes of either kind. -/
def HasFragment (file : Option String) : Prop :=
  ∃ s, file = some s ∧ ∃ c ∈ trim s.toList, ¬ isSlash c

/-- Without blanks around it, a file is slashes of either kind and nothing else. -/
def OnlySlashes (file : Option String) : Prop :=
  ∃ s, file = some s ∧ trim s.toList ≠ [] ∧ ∀ c ∈ trim s.toList, isSlash c

theorem usable?_eq_some_iff {value : Option String} {cs : List Char} :
    usable? value = some cs ↔ ∃ s, value = some s ∧ trim s.toList = cs ∧ cs ≠ [] := by
  rw [usable?, Option.filter_eq_some_iff, Option.map_eq_some_iff]
  constructor
  · rintro ⟨⟨s, rfl, htrim⟩, hne⟩
    exact ⟨s, rfl, htrim, by simpa using hne⟩
  · rintro ⟨s, rfl, htrim, hne⟩
    exact ⟨⟨s, rfl, htrim⟩, by simpa using hne⟩

/-! ## Names and fragments -/

/-- A repository tells a name, which it ends in: a slash or nothing is in front of the name, and slashes
may follow it. -/
def TellsName (repository : Option String) (name : List Char) : Prop :=
  name ≠ [] ∧ '/' ∉ name ∧ ∃ s lead slashes, repository = some s ∧
    trim s.toList = lead ++ name ++ List.replicate slashes '/' ∧
    (lead = [] ∨ lead.getLast? = some '/')

/-- A file tells a path in a repository: what is left of it without the slashes in front. -/
def TellsFragment (file : Option String) (f : List Char) : Prop :=
  f ≠ [] ∧ (∀ c ∈ f.head?, ¬ isSlash c) ∧ ∃ s slashes, file = some s ∧
    trim s.toList = slashes ++ f ∧ ∀ c ∈ slashes, isSlash c

theorem slash_notMem_shortName (cs : List Char) : '/' ∉ shortName cs := fun h => by
  simpa using List.mem_takeWhile_imp (List.mem_reverse.mp h)

theorem exists_slashes (cs : List Char) :
    ∃ slashes, cs = dropEndWhile (· = '/') cs ++ List.replicate slashes '/' := by
  refine ⟨(cs.reverse.takeWhile (· = '/')).length, ?_⟩
  have hrun : cs.reverse.takeWhile (· = '/') =
      List.replicate (cs.reverse.takeWhile (· = '/')).length '/' :=
    List.eq_replicate_iff.mpr ⟨rfl, fun c hc => by simpa using List.mem_takeWhile_imp hc⟩
  have hsplit := congrArg List.reverse
    (List.takeWhile_append_dropWhile (p := (· = '/')) (l := cs.reverse))
  rw [List.reverse_append, List.reverse_reverse, hrun, List.reverse_replicate] at hsplit
  exact hsplit.symm

theorem exists_lead (cs : List Char) :
    ∃ lead slashes, cs = lead ++ shortName cs ++ List.replicate slashes '/' ∧
      (lead = [] ∨ lead.getLast? = some '/') := by
  obtain ⟨slashes, hslashes⟩ := exists_slashes cs
  let body := dropEndWhile (· = '/') cs
  let lead := (body.reverse.dropWhile (· ≠ '/')).reverse
  have hbody : body = lead ++ shortName cs := by
    have hsplit := congrArg List.reverse
      (List.takeWhile_append_dropWhile (p := (· ≠ '/')) (l := body.reverse))
    rw [List.reverse_append, List.reverse_reverse] at hsplit
    exact hsplit.symm
  refine ⟨lead, slashes, by rw [← hbody]; exact hslashes, ?_⟩
  rw [List.getLast?_reverse, List.reverse_eq_nil_iff]
  have hstop := List.head?_dropWhile_not (· ≠ '/') body.reverse
  cases hrest : body.reverse.dropWhile (· ≠ '/') with
  | nil => exact .inl rfl
  | cons c rest =>
    rw [hrest] at hstop
    exact .inr (congrArg some (by simpa using hstop))

theorem shortName_ne_nil_iff {cs : List Char} : shortName cs ≠ [] ↔ ∃ c ∈ cs, c ≠ '/' := by
  constructor
  · intro h
    obtain ⟨c, hc⟩ := List.exists_mem_of_ne_nil _ h
    obtain ⟨lead, slashes, hcs, -⟩ := exists_lead cs
    refine ⟨c, by rw [hcs]; simp [hc], ?_⟩
    rintro rfl
    exact slash_notMem_shortName cs hc
  · rintro ⟨c, hc, hslash⟩
    -- behind the slashes at the end there is another character, and the name begins with it
    have hrest : cs.reverse.dropWhile (· = '/') ≠ [] := fun h =>
      hslash (by simpa using List.dropWhile_eq_nil_iff.mp h c (List.mem_reverse.mpr hc))
    obtain ⟨d, ds, hds⟩ := List.exists_cons_of_ne_nil hrest
    have hd := List.head?_dropWhile_not (· = '/') cs.reverse
    rw [hds] at hd
    have hd : d ≠ '/' := by simpa using hd
    simp [shortName, dropEndWhile, hds, hd]

theorem fragment_eq_nil_iff {cs : List Char} : fragment cs = [] ↔ ∀ c ∈ cs, isSlash c :=
  List.dropWhile_eq_nil_iff

theorem exists_slashes_fragment (cs : List Char) :
    ∃ slashes, cs = slashes ++ fragment cs ∧ ∀ c ∈ slashes, isSlash c :=
  ⟨cs.takeWhile isSlash, List.takeWhile_append_dropWhile.symm, fun _ => List.mem_takeWhile_imp⟩

theorem not_isSlash_head_fragment (cs : List Char) : ∀ c ∈ (fragment cs).head?, ¬ isSlash c := by
  intro c hc
  have hstop := List.head?_dropWhile_not isSlash cs
  change (cs.dropWhile isSlash).head? = some c at hc
  rw [hc] at hstop
  simpa using hstop

theorem tellsFragment {s : String} (h : ∃ c ∈ trim s.toList, ¬ isSlash c) :
    TellsFragment (some s) (fragment (trim s.toList)) := by
  obtain ⟨c, hc, hother⟩ := h
  obtain ⟨slashes, hsplit, hslashes⟩ := exists_slashes_fragment (trim s.toList)
  exact ⟨fun hnil => hother (fragment_eq_nil_iff.mp hnil c hc), not_isSlash_head_fragment _, s,
    slashes, rfl, hsplit, hslashes⟩

theorem tellsName {s : String} (h : shortName (trim s.toList) ≠ []) :
    TellsName (some s) (shortName (trim s.toList)) := by
  obtain ⟨lead, slashes, hsplit, hlead⟩ := exists_lead (trim s.toList)
  exact ⟨h, slash_notMem_shortName _, s, lead, slashes, rfl, hsplit, hlead⟩

/-! ## Files -/

variable {row : SmellRow} {root path : Path}

theorem exists_resolvePath_iff : (∃ path, row.resolvePath root = .ok path) ↔
    HasName row.repository ∧ (HasFragment row.file ∨ OnlySlashes row.file) := by
  constructor
  · rintro ⟨path, h⟩
    obtain ⟨repository, file, hrepository, hfile, hname, -⟩ := resolvePath_eq_ok_iff.mp h
    obtain ⟨s, hs, rfl, -⟩ := usable?_eq_some_iff.mp hrepository
    obtain ⟨t, ht, rfl, hne⟩ := usable?_eq_some_iff.mp hfile
    refine ⟨⟨s, hs, shortName_ne_nil_iff.mp hname⟩, ?_⟩
    by_cases hslashes : ∀ c ∈ trim t.toList, isSlash c
    · exact .inr ⟨t, ht, hne, hslashes⟩
    · exact .inl ⟨t, ht, by simpa using hslashes⟩
  · rintro ⟨⟨s, hs, c, hc, hslash⟩, hfile⟩
    have hrepository : usable? row.repository = some (trim s.toList) :=
      usable?_eq_some_iff.mpr ⟨s, hs, rfl, List.ne_nil_of_mem hc⟩
    obtain ⟨t, ht, hne⟩ : ∃ t, row.file = some t ∧ trim t.toList ≠ [] := by
      rcases hfile with ⟨t, ht, d, hd, -⟩ | ⟨t, ht, hne, -⟩
      · exact ⟨t, ht, List.ne_nil_of_mem hd⟩
      · exact ⟨t, ht, hne⟩
    have hfile := usable?_eq_some_iff.mpr ⟨t, ht, rfl, hne⟩
    exact ⟨_, resolvePath_of_usable hrepository hfile (shortName_ne_nil_iff.mpr ⟨c, hc, hslash⟩)⟩

theorem components_join_nil {p : Path} (hp : p.text ≠ "") :
    (p.join (.ofList [])).components = p.components := by
  rw [Path.components_join hp (by simp)]
  exact List.append_nil _

theorem text_join_ne {name : List Char} (hne : name ≠ []) (hname : '/' ∉ name) :
    (root.join (.ofList name)).text ≠ "" := by
  have hhead : name.head? ≠ some '/' := fun h => hname (List.mem_of_mem_head? h)
  rw [Path.join_eq_below hhead]
  intro h
  have hnil := congrArg String.toList h
  rw [String.toList_ofList, Path.below] at hnil
  split_ifs at hnil <;> simp [hne] at hnil

/-- **Which rows tell a file**, and which file that is. -/
theorem resolvePath_told (row : SmellRow) (root : Path) :
    ((∃ path, row.resolvePath root = .ok path) ↔
      HasName row.repository ∧ (HasFragment row.file ∨ OnlySlashes row.file)) ∧
    (∀ e, row.resolvePath root = .error e → e.kind = .malformedInput) ∧
    ∀ path, row.resolvePath root = .ok path → ∃ name, TellsName row.repository name ∧
      (HasFragment row.file → ∃ f, TellsFragment row.file f ∧
        path = ⟨.ofList (Path.below (Path.below root.text.toList name) f)⟩) ∧
      (OnlySlashes row.file → path.components = (root.join (.ofList name)).components) := by
  refine ⟨exists_resolvePath_iff, fun e => resolvePath_malformed, fun path h => ?_⟩
  obtain ⟨repository, file, hrepository, hfile, hname, rfl⟩ := resolvePath_eq_ok_iff.mp h
  obtain ⟨s, hs, rfl, -⟩ := usable?_eq_some_iff.mp hrepository
  obtain ⟨t, ht, rfl, -⟩ := usable?_eq_some_iff.mp hfile
  refine ⟨shortName (trim s.toList), by rw [hs]; exact tellsName hname, fun hfragment => ?_,
    fun honly => ?_⟩
  · obtain ⟨t', ht', hother⟩ := hfragment
    obtain rfl : t = t' := Option.some.inj (ht.symm.trans ht')
    refine ⟨fragment (trim t.toList), by rw [ht]; exact tellsFragment hother, ?_⟩
    rw [Path.join_eq_below (head?_shortName _), Path.join_eq_below (head?_fragment _),
      String.toList_ofList]
  · obtain ⟨t', ht', -, hslashes⟩ := honly
    obtain rfl : t = t' := Option.some.inj (ht.symm.trans ht')
    rw [fragment_eq_nil_iff.mpr hslashes,
      components_join_nil (text_join_ne hname (slash_notMem_shortName _))]

/-- A file of slashes of both kinds is the directory of the repository. -/
theorem resolvePath_told_slashes :
    OnlySlashes (some " \\/ ") ∧
      SmellRow.resolvePath ⟨some "o/ncc", some " \\/ ", none⟩ ⟨"/projects"⟩ =
        .ok ⟨"/projects/ncc/"⟩ ∧
      ∃ name, TellsName (some "o/ncc") name ∧
        (⟨"/projects/ncc/"⟩ : Path).components =
          ((⟨"/projects"⟩ : Path).join (.ofList name)).components := by
  have honly : OnlySlashes (some " \\/ ") :=
    ⟨" \\/ ", rfl, by decide, List.all_eq_true.mp (by decide)⟩
  have hrow : SmellRow.resolvePath ⟨some "o/ncc", some " \\/ ", none⟩ ⟨"/projects"⟩ =
      .ok ⟨"/projects/ncc/"⟩ := by decide
  obtain ⟨-, -, hfile⟩ := resolvePath_told ⟨some "o/ncc", some " \\/ ", none⟩ ⟨"/projects"⟩
  obtain ⟨name, hname, -, hdirectory⟩ := hfile _ hrow
  exact ⟨honly, hrow, name, hname, hdirectory honly⟩

/-- So a row whose file is nothing but a slash is not refused. -/
theorem resolvePath_lone_slash :
    HasName (some "o/ncc") ∧ ¬ HasFragment (some "/") ∧
      SmellRow.resolvePath ⟨some "o/ncc", some "/", some "1"⟩ ⟨"/projects"⟩ =
        .ok ⟨"/projects/ncc/"⟩ ∧
      (⟨"/projects/ncc/"⟩ : Path).same ⟨"/projects/ncc"⟩ := by
  refine ⟨⟨"o/ncc", rfl, 'o', by decide, by decide⟩, ?_, by decide, by decide⟩
  rintro ⟨s, hs, c, hc, hother⟩
  obtain rfl := Option.some.inj hs
  have htrim : trim "/".toList = ['/'] := by decide
  rw [htrim, List.mem_singleton] at hc
  exact hother (by rw [hc]; decide)

end TestLocator.Batch
