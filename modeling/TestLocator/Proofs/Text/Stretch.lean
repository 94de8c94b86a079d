import TestLocator.Proofs.Text.Breaks
import TestLocator.Proofs.Text.Removal

/-!
# Stretches of a text and the lines that they touch

A stretch of a text begins on the line that the line feeds before it tell and ends on the one that
its own line feeds tell, if it does not end with a line feed. The lines from the one to the other
hold the stretch.

* `splitOn_append` — two texts cut as one;
* `mem_joinLines`, `count_joinLines` — the characters of some lines, and the line feeds between them;
* `joinLines_append_head`, `joinLines_append_last` — text in front of the first and behind the last
  of some lines;
* **`joinLines_stretch`**, `joinLines_between` — the lines that a stretch touches.
-/

namespace TestLocator.Text

variable {cs ds : List Char}

/-! ## Two texts as one -/

theorem concat_inj {init init' : List (List Char)} {last last' : List Char}
    (h : init ++ [last] = init' ++ [last']) : init = init' ∧ last = last' := by
  obtain ⟨hinit, hlast⟩ := List.append_inj' h rfl
  exact ⟨hinit, List.singleton_inj.mp hlast⟩

theorem splitOn_append {sep : Char} {init rest : List (List Char)} {last first : List Char}
    (hcs : cs.splitOn sep = init ++ [last]) (hds : ds.splitOn sep = first :: rest) :
    (cs ++ ds).splitOn sep = init ++ (last ++ first) :: rest := by
  induction cs generalizing init last with
  | nil =>
    rw [List.splitOn_nil] at hcs
    have hinj : [] ++ [[]] = init ++ [last] := hcs
    obtain ⟨rfl, rfl⟩ := concat_inj hinj
    exact hds
  | cons c cs ih =>
    obtain ⟨init', last', hcs'⟩ : ∃ init' last', cs.splitOn sep = init' ++ [last'] :=
      ⟨_, _, (List.dropLast_concat_getLast (List.splitOn_ne_nil sep cs)).symm⟩
    rw [List.splitOn_cons_eq_if_modifyHead, hcs'] at hcs
    rw [List.cons_append, List.splitOn_cons_eq_if_modifyHead, ih hcs']
    split_ifs at hcs ⊢ with hc
    · have hinj : ([] :: init') ++ [last'] = init ++ [last] := hcs
      obtain ⟨rfl, rfl⟩ := concat_inj hinj
      rfl
    · cases init' with
      | nil =>
        have hinj : [] ++ [c :: last'] = init ++ [last] := hcs
        obtain ⟨rfl, rfl⟩ := concat_inj hinj
        rfl
      | cons m ms =>
        have hinj : ((c :: m) :: ms) ++ [last'] = init ++ [last] := hcs
        obtain ⟨rfl, rfl⟩ := concat_inj hinj
        rfl

theorem exists_splitOn_concat (sep : Char) (cs : List Char) : ∃ init last,
    cs.splitOn sep = init ++ [last] ∧ init.length = cs.count sep ∧ sep ∉ last := by
  have hne := List.splitOn_ne_nil sep cs
  refine ⟨_, _, (List.dropLast_concat_getLast hne).symm, ?_, ?_⟩
  · rw [List.length_dropLast, length_splitOn, Nat.add_sub_cancel]
  · exact notMem_of_mem_splitOn (List.getLast_mem hne)

/-! ## Text around lines -/

theorem joinLines_splitOn (cs : List Char) : joinLines (cs.splitOn '\n') = cs :=
  List.intercalate_splitOn '\n'

theorem joinLines_cons (l : List Char) {ls : List (List Char)} (h : ls ≠ []) :
    joinLines (l :: ls) = l ++ '\n' :: joinLines ls := by
  obtain ⟨m, ms, rfl⟩ := List.exists_cons_of_ne_nil h
  rw [joinLines, List.intercalate_cons_cons, List.append_assoc]
  rfl

theorem joinLines_cons_flatMap (l : List Char) (ls : List (List Char)) :
    joinLines (l :: ls) = l ++ ls.flatMap ('\n' :: ·) := by
  induction ls generalizing l with
  | nil => simp [joinLines]
  | cons m ms ih =>
    rw [joinLines_cons l (List.cons_ne_nil m ms), ih, List.flatMap_cons]
    rfl

theorem mem_joinLines {c : Char} {ls : List (List Char)} (h : c ∈ joinLines ls) :
    c = '\n' ∨ ∃ l ∈ ls, c ∈ l := by
  cases ls with
  | nil => simp [joinLines] at h
  | cons l ls =>
    rw [joinLines_cons_flatMap, List.mem_append, List.mem_flatMap] at h
    rcases h with h | ⟨m, hm, h⟩
    · exact .inr ⟨l, List.mem_cons_self, h⟩
    · exact (List.mem_cons.mp h).imp_right fun h => ⟨m, List.mem_cons_of_mem _ hm, h⟩

theorem count_joinLines {ls : List (List Char)} (h : ∀ l ∈ ls, '\n' ∉ l) (hne : ls ≠ []) :
    (joinLines ls).count '\n' + 1 = ls.length := by
  rw [← length_splitOn, joinLines, List.splitOn_intercalate '\n' h hne]

theorem joinLines_append_head (front l : List Char) (ls : List (List Char)) :
    joinLines ((front ++ l) :: ls) = front ++ joinLines (l :: ls) := by
  by_cases h : ls = []
  · simp [h, joinLines]
  · rw [joinLines_cons _ h, joinLines_cons _ h, List.append_assoc]

theorem joinLines_append_last (ls : List (List Char)) (l back : List Char) :
    joinLines (ls ++ [l ++ back]) = joinLines (ls ++ [l]) ++ back := by
  induction ls with
  | nil => simp [joinLines]
  | cons m ms ih =>
    rw [List.cons_append, List.cons_append, joinLines_cons _ (by simp), joinLines_cons _ (by simp),
      ih, List.append_assoc, List.cons_append]

/-! ## Stretches -/

theorem last_ne_nil {init : List (List Char)} {last : List Char} (hne : cs ≠ [])
    (hend : cs.getLast? ≠ some '\n') (hsplit : cs.splitOn '\n' = init ++ [last]) : last ≠ [] := by
  obtain ⟨front, c, rfl⟩ := (List.eq_nil_or_concat cs).resolve_left hne
  rw [List.concat_eq_append] at hend hsplit
  have hc : c ≠ '\n' := by simpa using hend
  have hback : [c].splitOn '\n' = [[c]] := by simp [List.splitOn_cons_eq_if_modifyHead, hc]
  obtain ⟨init', last', hfront, -, -⟩ := exists_splitOn_concat '\n' front
  rw [splitOn_append hfront hback] at hsplit
  obtain ⟨-, hlast⟩ := List.append_inj' hsplit rfl
  rw [← List.singleton_inj.mp hlast]
  simp

/-- **The lines that a stretch touches** are the stretch with the rest of two lines around it. -/
theorem joinLines_stretch (before stretch after : List Char) (hne : stretch ≠ [])
    (hend : stretch.getLast? ≠ some '\n') :
    before.count '\n' + stretch.count '\n' <
        (dropBlankEnd ((before ++ (stretch ++ after)).splitOn '\n')).length ∧
      ∃ front back, joinLines ((((before ++ (stretch ++ after)).splitOn '\n').drop
          (before.count '\n')).take (stretch.count '\n' + 1)) = front ++ stretch ++ back ∧
        '\n' ∉ front ∧ '\n' ∉ back := by
  obtain ⟨init, front, hbefore, hinit, hfront⟩ := exists_splitOn_concat '\n' before
  obtain ⟨mid, last, hstretch, hmid, -⟩ := exists_splitOn_concat '\n' stretch
  obtain ⟨back, rest, hafter⟩ := List.exists_cons_of_ne_nil (List.splitOn_ne_nil '\n' after)
  have hback : '\n' ∉ back := notMem_of_mem_splitOn (hafter ▸ List.mem_cons_self)
  have hlast := last_ne_nil hne hend hstretch
  have hjoin : joinLines (mid ++ [last]) = stretch := hstretch ▸ joinLines_splitOn stretch
  rw [← hinit, ← hmid]
  cases mid with
  | nil =>
    -- the stretch stands on one line
    have hlines := splitOn_append hbefore (splitOn_append hstretch hafter)
    refine ⟨?_, front, back, ?_, hfront, hback⟩
    · rw [hlines]
      exact lt_length_dropBlankEnd (by simp [hlast]) init rest
    · rw [hlines, List.drop_left, ← hjoin]
      simp [joinLines]
  | cons m ms =>
    have hlines := splitOn_append hbefore (splitOn_append hstretch hafter)
    refine ⟨?_, front, back, ?_, hfront, hback⟩
    · have hparts : init ++ (front ++ m) :: (ms ++ (last ++ back) :: rest) =
          (init ++ (front ++ m) :: ms) ++ (last ++ back) :: rest := by simp
      have hlt := lt_length_dropBlankEnd (l := last ++ back) (by simp [hlast])
        (init ++ (front ++ m) :: ms) rest
      rw [← hparts, List.length_append] at hlt
      rw [hlines]
      exact hlt
    · have htake : ((front ++ m) :: (ms ++ (last ++ back) :: rest)).take ((m :: ms).length + 1) =
          (front ++ m) :: (ms ++ [last ++ back]) := by
        rw [List.append_cons, ← List.cons_append]
        exact List.take_left' (by simp)
      rw [hlines, List.drop_left]
      calc joinLines (((front ++ m) :: (ms ++ (last ++ back) :: rest)).take ((m :: ms).length + 1))
        _ = front ++ joinLines (m :: ms ++ [last ++ back]) := by
          rw [htake, joinLines_append_head, List.cons_append]
        _ = front ++ stretch ++ back := by
          rw [joinLines_append_last, hjoin, List.append_assoc]

theorem take_append_between (cs : List Char) {i j : Nat} (h : i ≤ j) :
    cs.take i ++ (cs.drop i).take (j - i) = cs.take j := by
  rw [← List.take_add, Nat.add_sub_cancel' h]

theorem joinLines_between {i j : Nat} (hlt : i < j) (hle : j ≤ cs.length)
    (hend : (cs.take j).getLast? ≠ some '\n') :
    (cs.take i).count '\n' + ((cs.drop i).take (j - i)).count '\n' <
        (dropBlankEnd (cs.splitOn '\n')).length ∧
      ∃ front back, joinLines (((cs.splitOn '\n').drop ((cs.take i).count '\n')).take
          (((cs.drop i).take (j - i)).count '\n' + 1)) =
            front ++ (cs.drop i).take (j - i) ++ back ∧
        '\n' ∉ front ∧ '\n' ∉ back := by
  have hcs : cs.take i ++ ((cs.drop i).take (j - i) ++ cs.drop j) = cs := by
    rw [← List.append_assoc, take_append_between cs (Nat.le_of_lt hlt), List.take_append_drop]
  have hne : (cs.drop i).take (j - i) ≠ [] := by
    refine List.ne_nil_of_length_pos ?_
    rw [List.length_take, List.length_drop]
    omega
  rw [← take_append_between cs (Nat.le_of_lt hlt), List.getLast?_append_of_ne_nil _ hne] at hend
  have h := joinLines_stretch (cs.take i) ((cs.drop i).take (j - i)) (cs.drop j) hne hend
  rwa [hcs] at h

end TestLocator.Text
