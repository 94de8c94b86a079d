import Mathlib.Data.List.DropRight
import Mathlib.Tactic.SplitIfs
import TestLocator.Files.Disk

/-!
# Writing to a disk

A file that has been written is read back under the path that it was written to, and nothing else on
the disk has changed.

* `entry?_put`, `put_put` — what putting something at a spot changes;
* `follow_above` — the way to the directory of a file is the same on a disk that has the same
  directories;
* `Names`, `names_of_resolveNew`, `Names.resolve_eq` — the spot where a path puts a file;
* **`read_put`** — a file that is put there is what the path means.
-/

namespace TestLocator.Files

open TestLocator.Text

namespace Disk

variable {d d' : Disk} {s t : Spot} {p : Path}

/-! ## One spot -/

theorem lookup_filter_ne (entries : List (Spot × Entry)) (h : t ≠ s) :
    (entries.filter fun x => x.1 ≠ s).lookup t = entries.lookup t := by
  induction entries with
  | nil => rfl
  | cons x entries ih =>
    by_cases hx : x.1 = s
    · have hne : (t == x.1) = false := by simpa [hx] using h
      rw [List.filter_cons_of_neg (by simpa using hx), ih, List.lookup_cons, hne]
    · rw [List.filter_cons_of_pos (by simpa using hx), List.lookup_cons, List.lookup_cons, ih]

/-- **Putting something at a spot** changes this spot only. -/
theorem entry?_put (d : Disk) (s t : Spot) (e : Entry) :
    entry? (d.put s e) t = if t ≠ [] ∧ t = s then some e else d.entry? t := by
  by_cases hroot : t = []
  · simp [ entry?, hroot]
  · by_cases hts : t = s
    · simp [ entry?, put, hts, hts ▸ hroot]
    · have hne : (t == s) = false := by simpa using hts
      rw [if_neg fun h => hts h.2, entry?, entry?, if_neg hroot, if_neg hroot, put,
        List.lookup_cons, hne]
      exact lookup_filter_ne d.entries hts

theorem entry?_put_of_ne (d : Disk) (e : Entry) (h : t ≠ s) :
    entry? (d.put s e) t = d.entry? t := by
  rw [entry?_put, if_neg fun hts => h hts.2]

theorem entry?_put_self (d : Disk) (e : Entry) (h : s ≠ []) :
    entry? (d.put s e) s = some e := by
  rw [entry?_put, if_pos ⟨h, rfl⟩]

@[simp] theorem here_put (d : Disk) (s : Spot) (e : Entry) : (d.put s e).here = d.here := rfl

theorem follow_nil (h : (d.entry? s).isSome) : d.follow s [] = .ok s := by
  rw [follow, if_pos h]

theorem directory_of_follow {piece : List Char} {pieces : List (List Char)}
    (h : d.follow s (piece :: pieces) = .ok t) : d.entry? s = some .directory := by
  rw [follow] at h
  cases hs : d.entry? s with
  | none => simp [hs] at h
  | some e =>
    cases e with
    | file content => simp [hs] at h
    | directory => rfl

/-- **The way to a directory** is the same on a disk that has the same directories. -/
theorem follow_above {above : List (List Char)} (h : d.follow s (above ++ [[]]) = .ok t)
    (hdirs : ∀ u, d.entry? u = some .directory → d'.entry? u = some .directory)
    (pieces : List (List Char)) :
    d.entry? t = some .directory ∧ d'.follow s (above ++ pieces) = d'.follow t pieces := by
  induction above generalizing s with
  | nil =>
    have hs := directory_of_follow h
    rw [List.nil_append, follow, hs] at h
    simp only [true_or, if_true] at h
    rw [follow_nil (by rw [hs]; rfl)] at h
    cases h
    exact ⟨hs, rfl⟩
  | cons piece above ih =>
    have hs := directory_of_follow h
    rw [List.cons_append, follow, hs] at h
    rw [List.cons_append, follow, hdirs s hs]
    simp only at h ⊢
    split_ifs at h ⊢
    · exact ih h
    · exact ih h
    · exact ih h

theorem piecesOnto_ne_nil (current cs : List Char) : Path.piecesOnto current cs ≠ [] := by
  fun_induction Path.piecesOnto current cs with
  | case1 => exact List.cons_ne_nil _ _
  | case2 => exact List.cons_ne_nil _ _
  | case3 _ _ _ _ ih => exact ih

theorem eq_of_splitLast {pieces above : List (List Char)} {last : List Char} {slashes : Bool}
    (hne : pieces ≠ []) (h : splitLast pieces = (above, last, slashes))
    (hslashes : slashes = false) :
    pieces = above ++ [last] ∧ last ≠ [] := by
  have hkept : pieces.rdropWhile (·.isEmpty) = pieces := by
    refine (List.rdropWhile_prefix (·.isEmpty) (l := pieces)).eq_of_length_le ?_
    simp only [splitLast, Prod.mk.injEq] at h
    simpa [← h.2.2, List.rdropWhile] using hslashes
  have hsplit : splitLast pieces = (pieces.dropLast, pieces.getLast hne, false) := by
    rw [splitLast, ← List.rdropWhile, hkept, List.getLast?_eq_some_getLast hne]
    simp
  have hlast := List.rdropWhile_last_not (·.isEmpty) pieces (hkept.symm ▸ hne)
  simp only [hkept, List.isEmpty_iff] at hlast
  cases hsplit.symm.trans h
  exact ⟨(List.dropLast_append_getLast hne).symm, hlast⟩

/-- The pieces of a path are those that lead to the directory `t`, and the name of a file there. -/
structure Names (d : Disk) (p : Path) (above : List (List Char)) (name : List Char) (t : Spot) :
    Prop where
  noFault : pathFault? p = none
  pieces_eq : Path.pieces p.text.toList = above ++ [name]
  follow_eq : d.follow (d.origin p) (above ++ [[]]) = .ok t
  ne_step : name ≠ [] ∧ name ≠ ['.'] ∧ name ≠ ['.', '.']
  length_le : ¬ maxNameLength < byteLength name
  noDirectory : d.entry? (name :: t) ≠ some .directory

theorem names_of_resolveNew (h : d.resolveNew p = .ok s) :
    ∃ above name t, s = name :: t ∧ Names d p above name t := by
  unfold resolveNew at h
  cases hfault : pathFault? p with
  | some e => simp [hfault] at h
  | none =>
    simp only [hfault] at h
    rcases hsplit : splitLast (Path.pieces p.text.toList) with ⟨above, last, slashes⟩
    simp only [hsplit] at h
    cases hfollow : d.follow (d.origin p) (above ++ [[]]) with
    | error e => simp [hfollow] at h
    | ok t =>
      simp only [hfollow] at h
      split_ifs at h with hstep hlength hdir
      cases h
      obtain ⟨hslashes, hpoint, hparent⟩ := (not_or.mp hstep).imp id not_or.mp
      obtain ⟨hpieces, hname⟩ :=
        eq_of_splitLast (piecesOnto_ne_nil [] _) hsplit (Bool.eq_false_iff.mpr hslashes)
      exact ⟨above, last, t, rfl, hfault, hpieces, hfollow, ⟨hname, hpoint, hparent⟩, hlength, hdir⟩

theorem entry?_put_of_resolveNew (h : d.resolveNew p = .ok s) (e : Entry) :
    entry? (d.put s e) s = some e := by
  obtain ⟨above, name, t, rfl, -⟩ := names_of_resolveNew h
  exact entry?_put_self d e (List.cons_ne_nil name t)

theorem Names.resolve_eq {above : List (List Char)} {name : List Char} (h : Names d p above name t)
    (hdirs : ∀ u, d.entry? u = some .directory → d'.entry? u = some .directory)
    (hhere : d'.here = d.here) (hthere : (d'.entry? (name :: t)).isSome) :
    d'.resolve p = .ok (name :: t) := by
  obtain ⟨hdir, hfollow⟩ := follow_above h.follow_eq hdirs [name]
  have horigin : d'.origin p = d.origin p := by rw [origin, origin, hhere]
  obtain ⟨hempty, hpoint, hparent⟩ := h.ne_step
  rw [resolve, h.noFault, h.pieces_eq, horigin]
  simp only [hfollow]
  rw [follow, hdirs t hdir]
  simp only [hempty, hpoint, hparent, h.length_le, or_self, if_false]
  exact follow_nil hthere

theorem write_of_resolveNew (h : d.resolveNew p = .ok s) (content : Bytes) :
    d.write p content = .ok (d.put s (.file content)) := by
  rw [write, h]
  rfl

theorem write_of_resolveNew_error {e : AccessFailure} (h : d.resolveNew p = .error e)
    (content : Bytes) : d.write p content = .error e := by
  rw [write, h]
  rfl

/-- **A file that is put where a path puts files** is the one that is read there. -/
theorem read_put (h : d.resolveNew p = .ok s) (content : Bytes) :
    (d.put s (.file content)).read p = .ok content := by
  have hself := entry?_put_of_resolveNew h (.file content)
  obtain ⟨above, name, t, rfl, hnames⟩ := names_of_resolveNew h
  have hdirs : ∀ u, d.entry? u = some .directory →
      entry? (d.put (name :: t) (.file content)) u = some .directory := fun u hu => by
    have hne : u ≠ name :: t := fun hut => hnames.noDirectory (hut ▸ hu)
    rw [entry?_put_of_ne _ _ hne, hu]
  rw [read, hnames.resolve_eq hdirs (here_put d _ _) (by rw [hself]; rfl)]
  simp only [hself]

end Disk

end TestLocator.Files
