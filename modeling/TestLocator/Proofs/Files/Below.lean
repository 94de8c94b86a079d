import Mathlib.Data.List.Basic
import TestLocator.Files.Path

/-!
# Paths below a path

A path that does not start at the root, put below another one, adds its steps to those of the other.

* `names`, `components_slash` — the steps that a text adds behind a slash;
* `below`, `join_eq_below` — a path below another one as a text;
* **`components_join`**, `prefix_components_join` — its steps.
-/

namespace TestLocator.Files.Path

/-- The steps that a text adds when it is put below a path. -/
def names (cs : List Char) : List Component := (pieces cs).filterMap componentOf?

theorem piecesOnto_append (current cs ds : List Char) :
    piecesOnto current (cs ++ '/' :: ds) = piecesOnto current cs ++ pieces ds := by
  fun_induction piecesOnto current cs with
  | case1 current => rfl
  | case2 current cs ih => rw [List.cons_append, piecesOnto, ih, List.cons_append]
  | case3 current c cs hslash ih =>
    rw [List.cons_append, piecesOnto, ih]
    assumption

theorem names_append (cs ds : List Char) : names (cs ++ '/' :: ds) = names cs ++ names ds := by
  rw [names, pieces, piecesOnto_append, List.filterMap_append]
  rfl

theorem splitLead_slash {cs : List Char} (hne : cs ≠ []) (ds : List Char) :
    splitLead (cs ++ '/' :: ds) = ((splitLead cs).1, (splitLead cs).2 ++ '/' :: ds) := by
  fun_cases splitLead cs with
  | case1 cs => rfl
  | case2 => rfl
  | case3 cs => rfl
  | case4 cs hroot hpoint hlead =>
    obtain ⟨c, cs, rfl⟩ := List.exists_cons_of_ne_nil hne
    rw [List.cons_append, splitLead]
    · intro es h
      exact hroot cs (by rw [(List.cons.inj h).1])
    · intro h
      simp at h
    · intro es h
      obtain ⟨rfl, htail⟩ := List.cons.inj h
      cases cs with
      | nil => exact hpoint rfl
      | cons d cs => exact hlead cs (by rw [(List.cons.inj htail).1])

theorem components_slash {cs : List Char} (hne : cs ≠ []) (ds : List Char) :
    components ⟨.ofList (cs ++ '/' :: ds)⟩ = components ⟨.ofList cs⟩ ++ names ds := by
  have hbody := names_append (splitLead cs).2 ds
  simp only [names] at hbody
  simp only [components, String.toList_ofList, splitLead_slash hne, names, hbody, List.append_assoc]

theorem components_root (ds : List Char) :
    components ⟨.ofList ('/' :: ds)⟩ = .root :: names ds := by
  rw [components, String.toList_ofList]
  rfl

/-! ## A path below another one -/

/-- A path and what is put below it: a slash comes between them unless the path is empty or ends in
one. -/
def below (cs ds : List Char) : List Char :=
  if cs = [] ∨ cs.getLast? = some '/' then cs ++ ds else cs ++ '/' :: ds

section

variable {p : Path} {ds : List Char}

theorem join_eq_below (hds : ds.head? ≠ some '/') :
    p.join (.ofList ds) = ⟨.ofList (below p.text.toList ds)⟩ := by
  unfold join below
  rw [String.toList_ofList, if_neg hds]
  split_ifs
  · rw [String.ofList_append, String.ofList_toList]
  · refine congrArg Path.mk (String.toList_injective ?_)
    simp

/-- **A path below another one** adds its steps to those of the other. -/
theorem components_join (hp : p.text ≠ "") (hds : ds.head? ≠ some '/') :
    (p.join (.ofList ds)).components = p.components ++ names ds := by
  obtain ⟨text⟩ := p
  have hne : text.toList ≠ [] := fun h => hp (String.toList_inj.mp h)
  rw [join_eq_below hds, below]
  by_cases hlast : text.toList.getLast? = some '/'
  · obtain ⟨cs, hcs⟩ := List.getLast?_eq_some_iff.mp hlast
    have htext : text = .ofList (cs ++ '/' :: []) := by rw [← hcs, String.ofList_toList]
    rw [if_pos (.inr hlast), htext, String.toList_ofList, List.append_assoc, List.cons_append,
      List.nil_append]
    -- a slash that is all of the path is its root
    by_cases hnil : cs = []
    · rw [hnil, List.nil_append, List.nil_append, components_root, components_root]
      rfl
    · have hslash : names [] = [] := rfl
      rw [components_slash hnil, components_slash hnil, hslash, List.append_nil]
  · rw [if_neg (not_or.mpr ⟨hne, hlast⟩), components_slash hne, String.ofList_toList]

theorem prefix_components_join (hds : ds.head? ≠ some '/') :
    p.components <+: (p.join (.ofList ds)).components := by
  by_cases hp : p.text = ""
  · obtain ⟨text⟩ := p
    subst hp
    exact List.nil_prefix
  · rw [components_join hp hds]
    exact List.prefix_append _ _

end

end TestLocator.Files.Path
