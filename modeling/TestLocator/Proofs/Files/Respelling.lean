import Mathlib.Logic.Relation
import TestLocator.Proofs.Files.Ancestors

/-!
# Ways to write a path

A path keeps its steps when a slash in it is written twice, when a point is put behind a slash and
when a slash is put at its end. There is nothing else in the text of a path beside its steps: two
texts with the same steps become each other in these ways.

* `Respells`, `components_of_respells` — a text of a path and a longer one of the same path;
* `plain`, `respelled_plain` — the shortest text with given steps, and the way to it;
* **`components_eq_iff`** — equality of steps as a relation between texts.
-/

namespace TestLocator.Files

/-- How a step is written. The root is the empty text in front of the first slash. -/
def Component.piece : Component → List Char
  | .root => []
  | .current => ['.']
  | .parent => ['.', '.']
  | .normal name => name

namespace Path

open Relation

/-- A text of a path and a longer text of the same path. -/
inductive Respells : Path → Path → Prop
  /-- A slash is written twice. -/
  | slash (cs ds : List Char) :
    Respells ⟨.ofList (cs ++ '/' :: ds)⟩ ⟨.ofList (cs ++ '/' :: '/' :: ds)⟩
  /-- A point is put behind a slash, with a slash of its own. -/
  | point (cs ds : List Char) :
    Respells ⟨.ofList (cs ++ '/' :: ds)⟩ ⟨.ofList (cs ++ '/' :: '.' :: '/' :: ds)⟩
  /-- A slash is put at the end. -/
  | ending {cs : List Char} : cs ≠ [] → Respells ⟨.ofList cs⟩ ⟨.ofList (cs ++ ['/'])⟩

/-! ## The steps stay -/

theorem names_nil : names [] = [] := rfl

theorem names_slash (ds : List Char) : names ('/' :: ds) = names ds := names_append [] ds

theorem names_point (ds : List Char) : names ('.' :: '/' :: ds) = names ds := names_append ['.'] ds

theorem components_slash_congr (cs : List Char) {ds es : List Char} (h : names ds = names es) :
    components ⟨.ofList (cs ++ '/' :: ds)⟩ = components ⟨.ofList (cs ++ '/' :: es)⟩ := by
  by_cases hcs : cs = []
  · rw [hcs, List.nil_append, List.nil_append, components_root, components_root, h]
  · rw [components_slash hcs, components_slash hcs, h]

theorem components_of_respells {p q : Path} (h : Respells p q) : p.components = q.components := by
  cases h with
  | slash cs ds => exact components_slash_congr cs (names_slash ds).symm
  | point cs ds => exact components_slash_congr cs (names_point ds).symm
  | ending hcs => rw [components_slash hcs, names_nil, List.append_nil]

/-! ## Pieces and their steps -/

/-- Pieces with a slash in front of each. -/
def slashed (pieces : List (List Char)) : List Char := pieces.flatMap ('/' :: ·)

section

variable {cs piece : List Char} {pieces : List (List Char)}

theorem slashed_cons : slashed (piece :: pieces) = '/' :: (piece ++ slashed pieces) := rfl

theorem exists_slashed (cs : List Char) : ∃ piece pieces, cs = piece ++ slashed pieces ∧
    '/' ∉ piece ∧ ∀ other ∈ pieces, '/' ∉ other := by
  induction cs with
  | nil => exact ⟨[], [], rfl, List.not_mem_nil, nofun⟩
  | cons c cs ih =>
    obtain ⟨piece, pieces, rfl, hpiece, hpieces⟩ := ih
    by_cases hc : c = '/'
    · exact ⟨[], piece :: pieces, by rw [hc, slashed_cons, List.nil_append], List.not_mem_nil,
        List.forall_mem_cons.mpr ⟨hpiece, hpieces⟩⟩
    · refine ⟨c :: piece, pieces, rfl, ?_, hpieces⟩
      exact List.not_mem_cons_of_ne_of_not_mem (Ne.symm hc) hpiece

theorem names_slashed (hpiece : '/' ∉ piece) (hpieces : ∀ other ∈ pieces, '/' ∉ other) :
    names (piece ++ slashed pieces) = (piece :: pieces).filterMap componentOf? := by
  induction pieces generalizing piece with
  | nil =>
    rw [slashed, List.flatMap_nil, List.append_nil, names_of_notMem hpiece]
    cases h : componentOf? piece <;> simp [h]
  | cons other pieces ih =>
    obtain ⟨hother, hpieces⟩ := List.forall_mem_cons.mp hpieces
    rw [slashed_cons, names_append, ih hother hpieces, names_of_notMem hpiece]
    cases h : componentOf? piece <;> simp [h]

theorem componentOf?_eq_none_iff : componentOf? piece = none ↔ piece = [] ∨ piece = ['.'] := by
  unfold componentOf?
  split_ifs <;> simp_all

theorem piece_of_componentOf? {c : Component} (h : componentOf? piece = some c) :
    c.piece = piece := by
  unfold componentOf? at h
  split_ifs at h with _ hparent
  · cases h
    exact hparent.symm
  · cases h
    rfl

/-- The step in front of the first slash. -/
theorem exists_components_of_notMem (hne : piece ≠ []) (hpiece : '/' ∉ piece) :
    ∃ c ≠ .root, components ⟨.ofList piece⟩ = [c] ∧ c.piece = piece := by
  rw [components_eq, String.toList_ofList]
  fun_cases splitLead piece with
  | case1 => exact absurd List.mem_cons_self hpiece
  | case2 => exact ⟨.current, Component.noConfusion, rfl, rfl⟩
  | case3 => exact absurd (List.mem_cons_of_mem _ List.mem_cons_self) hpiece
  | case4 _ _ hpoint _ =>
    have hstep : componentOf? piece ≠ none := fun h =>
      (componentOf?_eq_none_iff.mp h).elim hne hpoint
    obtain ⟨c, hc⟩ := Option.ne_none_iff_exists'.mp hstep
    refine ⟨c, fun heq => componentOf?_ne_root piece (heq ▸ hc), ?_, piece_of_componentOf? hc⟩
    rw [names_of_notMem hpiece, hc]
    rfl

/-! ## The plain text -/

/-- The shortest text with given steps. -/
def plain : List Component → List Char
  | [] => []
  | [.root] => ['/']
  | c :: cs => c.piece ++ slashed (cs.map Component.piece)

theorem respelled_point_end (cs : List Char) :
    EqvGen Respells ⟨.ofList (cs ++ ['/', '.'])⟩ ⟨.ofList (cs ++ ['/'])⟩ := by
  have hending : Respells ⟨.ofList (cs ++ ['/', '.'])⟩ ⟨.ofList (cs ++ ['/', '.'] ++ ['/'])⟩ :=
    .ending (by simp)
  rw [List.append_assoc] at hending
  exact .trans _ _ _ (.rel _ _ hending) (.symm _ _ (.rel _ _ (.point cs [])))

theorem respelled_idle (cs : List Char) (hidle : componentOf? piece = none)
    (h : cs ≠ [] ∨ pieces ≠ []) :
    EqvGen Respells ⟨.ofList (cs ++ slashed (piece :: pieces))⟩
      ⟨.ofList (cs ++ slashed pieces)⟩ := by
  rw [componentOf?_eq_none_iff] at hidle
  cases pieces with
  | nil =>
    have hcs : cs ≠ [] := h.resolve_right (not_not_intro rfl)
    have hslash : EqvGen Respells ⟨.ofList (cs ++ ['/'])⟩ ⟨.ofList (cs ++ slashed [])⟩ := by
      rw [slashed, List.flatMap_nil, List.append_nil]
      exact .symm _ _ (.rel _ _ (.ending hcs))
    rcases hidle with rfl | rfl
    · exact hslash
    · exact .trans _ _ _ (respelled_point_end cs) hslash
  | cons other pieces =>
    rcases hidle with rfl | rfl
    · exact .symm _ _ (.rel _ _ (.slash cs _))
    · exact .symm _ _ (.rel _ _ (.point cs _))

theorem respelled_slashed (pieces : List (List Char)) (hcs : cs ≠ []) :
    EqvGen Respells ⟨.ofList (cs ++ slashed pieces)⟩
      ⟨.ofList (cs ++ slashed ((pieces.filterMap componentOf?).map Component.piece))⟩ := by
  induction pieces generalizing cs with
  | nil => exact .refl _
  | cons piece pieces ih =>
    cases hstep : componentOf? piece with
    | none =>
      rw [List.filterMap_cons_none hstep]
      exact .trans _ _ _ (respelled_idle cs hstep (.inl hcs)) (ih hcs)
    | some c =>
      -- a step stays, and what follows is behind a longer text
      have hne : cs ++ '/' :: piece ≠ [] := by simp
      have h := ih hne
      rw [List.append_assoc, List.append_assoc] at h
      rw [List.filterMap_cons_some hstep, List.map_cons, piece_of_componentOf? hstep]
      exact h

theorem respelled_root (hne : pieces ≠ []) :
    EqvGen Respells ⟨.ofList (slashed pieces)⟩
      ⟨.ofList (plain (.root :: pieces.filterMap componentOf?))⟩ := by
  induction pieces with
  | nil => exact absurd rfl hne
  | cons piece pieces ih =>
    cases hstep : componentOf? piece with
    | none =>
      rw [List.filterMap_cons_none hstep]
      by_cases hpieces : pieces = []
      · rw [hpieces]
        rcases componentOf?_eq_none_iff.mp hstep with rfl | rfl
        · exact .refl _
        · exact respelled_point_end []
      · exact .trans _ _ _ (respelled_idle [] hstep (.inr hpieces)) (ih hpieces)
    | some c =>
      have h := respelled_slashed pieces (List.cons_ne_nil '/' piece)
      rw [List.filterMap_cons_some hstep, plain, List.map_cons, piece_of_componentOf? hstep]
      · exact h
      · exact nofun

end

/-- **Every text of a path** can be brought to the shortest one. -/
theorem respelled_plain (p : Path) : EqvGen Respells p ⟨.ofList (plain p.components)⟩ := by
  obtain ⟨text⟩ := p
  obtain ⟨piece, pieces, htext, hpiece, hpieces⟩ := exists_slashed text.toList
  obtain rfl : text = .ofList (piece ++ slashed pieces) := by rw [← htext, String.ofList_toList]
  -- a text that starts with a slash has the empty piece in front, and so has the empty text
  by_cases hne : piece = []
  · subst hne
    cases pieces with
    | nil => exact .refl _
    | cons other pieces =>
      obtain ⟨hother, hpieces⟩ := List.forall_mem_cons.mp hpieces
      have h := respelled_root (List.cons_ne_nil other pieces)
      rw [List.nil_append, slashed_cons, components_root, names_slashed hother hpieces]
      exact h
  · obtain ⟨c, hc, hfirst, rfl⟩ := exists_components_of_notMem hne hpiece
    have hsteps : components ⟨.ofList (c.piece ++ slashed pieces)⟩ =
        c :: pieces.filterMap componentOf? := by
      cases pieces with
      | nil => rw [slashed, List.flatMap_nil, List.append_nil, hfirst, List.filterMap_nil]
      | cons other pieces =>
        obtain ⟨hother, hpieces⟩ := List.forall_mem_cons.mp hpieces
        rw [slashed_cons, components_slash hne, hfirst, names_slashed hother hpieces,
          List.singleton_append]
    rw [hsteps, plain]
    · exact respelled_slashed pieces hne
    · rintro rfl
      exact absurd rfl hc

/-- **Two texts have the same steps** exactly if they become each other in these ways. -/
theorem components_eq_iff {p q : Path} : p.components = q.components ↔ EqvGen Respells p q := by
  constructor
  · intro h
    have hq := respelled_plain q
    rw [← h] at hq
    exact .trans _ _ _ (respelled_plain p) (.symm _ _ hq)
  · intro h
    induction h with
    | rel p q h => exact components_of_respells h
    | refl p => rfl
    | symm p q _ ih => exact ih.symm
    | trans p q r _ _ hpq hqr => exact hpq.trans hqr

end Path

end TestLocator.Files
