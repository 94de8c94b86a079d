import TestLocator.Proofs.Files.Ancestors
import TestLocator.Proofs.Files.Writing

/-!
# Files in a directory

A file with a given name can be put into the directory that a path leads to exactly if the directory
is there and no directory has the name. The path of the directory may end in slashes or say nothing
at all: then it leads to the working directory.

* `Path.exists_pieces_join`, `follow_concat_nil_iff` — the pieces of a path below another one, and
  where they lead;
* `Names.resolveNew_eq`, `Names.isThere_eq` — the spot of a file by its pieces;
* `IsFileName`, `Receives`, **`resolveNew_join_iff`**, `isThere_join` — the spot of a file by its
  directory and its name.
-/

namespace TestLocator.Files

open TestLocator.Text

/-! ## Pieces of a path below another one -/

namespace Path

theorem pieces_slash (cs ds : List Char) : pieces (cs ++ '/' :: ds) = pieces cs ++ pieces ds :=
  piecesOnto_append [] cs ds

theorem exists_pieces_below {name : List Char} (hname : '/' ∉ name) (cs : List Char) :
    ∃ above, pieces (below cs name) = above ++ [name] ∧
      (pieces cs = above ++ [[]] ∨ pieces cs = above) := by
  have hpieces := pieces_of_notMem hname
  unfold below
  split_ifs with hjoin
  · rcases hjoin with rfl | hlast
    · exact ⟨[], hpieces, .inl rfl⟩
    · obtain ⟨front, rfl⟩ := List.getLast?_eq_some_iff.mp hlast
      refine ⟨pieces front, ?_, .inl (pieces_slash front [])⟩
      rw [List.append_assoc, List.singleton_append, pieces_slash, hpieces]
  · exact ⟨pieces cs, by rw [pieces_slash, hpieces], .inr rfl⟩

theorem head?_ne_slash {name : List Char} (hname : '/' ∉ name) : name.head? ≠ some '/' :=
  fun h => hname (List.mem_of_head? h)

theorem exists_pieces_join {name : List Char} (hname : '/' ∉ name) (p : Path) :
    ∃ above, pieces (p.join (.ofList name)).text.toList = above ++ [name] ∧
      (pieces p.text.toList = above ++ [[]] ∨ pieces p.text.toList = above) := by
  rw [join_eq_below (head?_ne_slash hname), String.toList_ofList]
  exact exists_pieces_below hname _

theorem isAbsolute_join {p : Path} {name : List Char} (hname : '/' ∉ name) :
    (p.join (.ofList name)).isAbsolute = p.isAbsolute := by
  have hhead := head?_ne_slash hname
  rw [join_eq_below hhead, isAbsolute, isAbsolute, String.toList_ofList, below]
  cases p.text.toList with
  | nil => simpa using hhead
  | cons c cs => split_ifs <;> rfl

end Path

namespace Disk

variable {d : Disk} {s t : Spot} {p : Path} {name : List Char} {above : List (List Char)}

/-- An empty piece at the end asks for a directory. -/
theorem follow_concat_nil_iff {pieces : List (List Char)} :
    d.follow s (pieces ++ [[]]) = .ok t ↔
      d.follow s pieces = .ok t ∧ d.entry? t = some .directory := by
  induction pieces generalizing s with
  | nil =>
    have hend : d.follow s [[]] = .ok t ↔ d.entry? s = some .directory ∧ s = t := by
      cases hs : d.entry? s with
      | none => simp [follow, hs]
      | some e => cases e <;> simp [follow, hs]
    have hstay : d.follow s [] = .ok t ↔ (d.entry? s).isSome ∧ s = t := by
      rw [follow]
      split_ifs with hs <;> simp [hs]
    rw [List.nil_append, hend, hstay]
    constructor
    · rintro ⟨hdir, rfl⟩
      exact ⟨⟨by rw [hdir]; rfl, rfl⟩, hdir⟩
    · rintro ⟨⟨-, rfl⟩, hdir⟩
      exact ⟨hdir, rfl⟩
  | cons piece pieces ih =>
    rw [List.cons_append, follow, follow]
    cases d.entry? s with
    | none => simp
    | some e =>
      cases e with
      | file content => simp
      | directory =>
        simp only
        split_ifs
        · exact ih
        · exact ih
        · simp
        · exact ih

/-! ## The spot of a file by its pieces -/

theorem splitLast_concat (hname : name ≠ []) : splitLast (above ++ [name]) = (above, name, false) := by
  have hempty : ¬ name.isEmpty = true := by simpa using hname
  simp [splitLast, hempty]

theorem Names.resolveNew_eq (h : Names d p above name t) : d.resolveNew p = .ok (name :: t) := by
  obtain ⟨hempty, hpoint, hparent⟩ := h.ne_step
  rw [resolveNew, h.noFault, h.pieces_eq, splitLast_concat hempty]
  simp only [h.follow_eq, hpoint, hparent, h.length_le, h.noDirectory, Bool.false_eq_true, or_self,
    if_false]

theorem Names.isThere_eq (h : Names d p above name t) :
    d.isThere p = (d.entry? (name :: t)).isSome := by
  obtain ⟨hdir, hfollow⟩ := follow_above h.follow_eq (fun _ hu => hu) [name]
  obtain ⟨hempty, hpoint, hparent⟩ := h.ne_step
  rw [isThere, resolve, h.noFault, h.pieces_eq]
  simp only [hfollow]
  rw [follow, hdir]
  simp only [hempty, hpoint, hparent, h.length_le, or_self, if_false]
  rw [follow]
  split_ifs with hthere
  · exact hthere.symm
  · exact (Bool.eq_false_iff.mpr hthere).symm

theorem readText_put (h : d.resolveNew p = .ok s) (text : String) :
    (d.put s (.file (encode text.toList))).readText p = .ok text := by
  rw [readText, read_put h]
  simp only [decode?_encode, String.ofList_toList]

/-! ## The spot of a file by its directory and its name -/

/-- A name that a file may have. -/
structure IsFileName (name : List Char) : Prop where
  noSlash : '/' ∉ name
  ne_step : name ≠ [] ∧ name ≠ ['.'] ∧ name ≠ ['.', '.']
  length_le : ¬ maxNameLength < byteLength name

/-- The path of a directory leads to the directory `t`, which takes in a file with a name: the two
together are no more than a path may be, and no directory has the name. -/
structure Receives (d : Disk) (p : Path) (name : List Char) (t : Spot) : Prop where
  noFault : pathFault? (p.join (.ofList name)) = none
  leads : d.follow (d.origin p) (Path.pieces p.text.toList) = .ok t
  isDirectory : d.entry? t = some .directory
  noDirectory : d.entry? (name :: t) ≠ some .directory

theorem exists_names_join_iff (hname : IsFileName name) :
    (∃ above, Names d (p.join (.ofList name)) above name t) ↔ Receives d p name t := by
  obtain ⟨above, hjoin, habove⟩ := Path.exists_pieces_join hname.noSlash p
  have horigin : d.origin (p.join (.ofList name)) = d.origin p := by
    rw [origin, origin, Path.isAbsolute_join hname.noSlash]
  have hleads : d.follow (d.origin p) (above ++ [[]]) = .ok t ↔
      d.follow (d.origin p) (Path.pieces p.text.toList) = .ok t ∧
        d.entry? t = some .directory := by
    rcases habove with habove | habove
    · rw [habove]
      exact ⟨fun h => ⟨h, (follow_concat_nil_iff.mp h).2⟩, And.left⟩
    · rw [habove]
      exact follow_concat_nil_iff
  constructor
  · rintro ⟨above', h⟩
    obtain rfl : above = above' := (List.append_inj' (hjoin.symm.trans h.pieces_eq) rfl).1
    obtain ⟨hdir, hisdir⟩ := hleads.mp (horigin ▸ h.follow_eq)
    exact ⟨h.noFault, hdir, hisdir, h.noDirectory⟩
  · intro h
    have hfollow := hleads.mpr ⟨h.leads, h.isDirectory⟩
    exact ⟨above, h.noFault, hjoin, horigin.symm ▸ hfollow, hname.ne_step, hname.length_le,
      h.noDirectory⟩

/-- **The spot where a file is put** is told by its directory and its name. -/
theorem resolveNew_join_iff (hname : IsFileName name) :
    d.resolveNew (p.join (.ofList name)) = .ok s ↔ ∃ t, Receives d p name t ∧ s = name :: t := by
  constructor
  · intro h
    obtain ⟨above, last, t, rfl, hnames⟩ := names_of_resolveNew h
    obtain ⟨_, hpieces, -⟩ := Path.exists_pieces_join hname.noSlash p
    have hlast := (List.append_inj' (hpieces.symm.trans hnames.pieces_eq) rfl).2
    obtain rfl : name = last := List.singleton_inj.mp hlast
    exact ⟨t, (exists_names_join_iff hname).mp ⟨above, hnames⟩, rfl⟩
  · rintro ⟨t, h, rfl⟩
    obtain ⟨above, hnames⟩ := (exists_names_join_iff hname).mpr h
    exact hnames.resolveNew_eq

theorem isThere_join (hname : IsFileName name) (h : Receives d p name t) :
    d.isThere (p.join (.ofList name)) = (d.entry? (name :: t)).isSome := by
  obtain ⟨above, hnames⟩ := (exists_names_join_iff hname).mpr h
  exact hnames.isThere_eq

end Disk

end TestLocator.Files
