import Mathlib.Data.List.Basic
import TestLocator.Text.Lines

/-!
# Line breaks

* `physicalLines` — a raw text cut at every break, whichever way it is written;
* `splitOn_unifyBreaks` — with one way to write breaks the lines stay what they are;
* `breakCount`, `length_physicalLines` — the number of breaks;
* `respell`, `unifyBreaks_respell` — a text whose breaks are written in another way;
* `dropBlankEnd`, `splitLines_eq` — an empty last line does not count, and every other line does.
-/

namespace TestLocator.Text

/-- A raw text cut at each carriage return with a line feed, each lone carriage return and each lone
line feed. What follows the last of them is a line too, even if it is empty. -/
def physicalLines : List Char → List (List Char)
  | [] => [[]]
  | '\r' :: '\n' :: cs => [] :: physicalLines cs
  | '\r' :: cs => [] :: physicalLines cs
  | '\n' :: cs => [] :: physicalLines cs
  | c :: cs => (physicalLines cs).modifyHead (c :: ·)

/-! ## One way to write breaks -/

theorem unifyBreaksOnto_append (done kept cs : List Char) :
    unifyBreaksOnto (done ++ kept) cs = kept.reverse ++ unifyBreaksOnto done cs := by
  fun_induction unifyBreaksOnto done cs with
  | case1 done => simp [unifyBreaksOnto]
  | case2 done cs ih => rw [unifyBreaksOnto, ← ih, List.cons_append]
  | case3 done cs h ih => rw [unifyBreaksOnto, ← ih, List.cons_append]; exact h
  | case4 done c cs h₁ h₂ ih => rw [unifyBreaksOnto, ← ih, List.cons_append] <;> assumption

theorem unifyBreaksOnto_eq (done cs : List Char) :
    unifyBreaksOnto done cs = done.reverse ++ unifyBreaks cs :=
  unifyBreaksOnto_append [] done cs

theorem unifyBreaks_both (cs : List Char) :
    unifyBreaks ('\r' :: '\n' :: cs) = '\n' :: unifyBreaks cs := by
  rw [unifyBreaks, unifyBreaksOnto, unifyBreaksOnto_eq]; rfl

theorem unifyBreaks_return {cs : List Char} (h : ∀ ds, cs ≠ '\n' :: ds) :
    unifyBreaks ('\r' :: cs) = '\n' :: unifyBreaks cs := by
  rw [unifyBreaks, unifyBreaksOnto, unifyBreaksOnto_eq]
  · rfl
  · exact fun ds e => h ds e

theorem unifyBreaks_cons {c : Char} (hc : c ≠ '\r') (cs : List Char) :
    unifyBreaks (c :: cs) = c :: unifyBreaks cs := by
  rw [unifyBreaks, unifyBreaksOnto, unifyBreaksOnto_eq]
  · rfl
  · exact fun _ e _ => hc e
  · exact hc

theorem return_notMem_unifyBreaks (cs : List Char) : '\r' ∉ unifyBreaks cs := by
  fun_induction physicalLines cs with
  | case1 => exact List.not_mem_nil
  | case2 cs ih => simp [unifyBreaks_both, ih]
  | case3 cs h ih => simp [unifyBreaks_return h, ih]
  | case4 cs ih => simp [unifyBreaks_cons, ih]
  | case5 c cs _ hc _ ih => simp [unifyBreaks_cons hc, ih, Ne.symm hc]

/-- **One way to write breaks keeps the lines.** -/
theorem splitOn_unifyBreaks (cs : List Char) :
    (unifyBreaks cs).splitOn '\n' = physicalLines cs := by
  fun_induction physicalLines cs with
  | case1 => rfl
  | case2 cs ih => simp [unifyBreaks_both, List.splitOn_cons_eq_if_modifyHead, ih]
  | case3 cs h ih => simp [unifyBreaks_return h, List.splitOn_cons_eq_if_modifyHead, ih]
  | case4 cs ih => simp [unifyBreaks_cons, List.splitOn_cons_eq_if_modifyHead, ih]
  | case5 c cs _ hc hn ih =>
    have hne : (c == '\n') = false := beq_eq_false_iff_ne.mpr hn
    rw [unifyBreaks_cons hc, List.splitOn_cons_eq_if_modifyHead, hne, ih]
    rfl

theorem unifyBreaks_of_notMem {cs : List Char} (h : '\r' ∉ cs) : unifyBreaks cs = cs := by
  induction cs with
  | nil => rfl
  | cons c cs ih =>
    have hc : c ≠ '\r' := fun e => h (e ▸ List.mem_cons_self)
    rw [unifyBreaks_cons hc, ih fun hmem => h (List.mem_cons_of_mem _ hmem)]

/-! ## The number of breaks -/

/-- The number of breaks in a raw text. -/
def breakCount : List Char → Nat
  | [] => 0
  | '\r' :: '\n' :: cs => breakCount cs + 1
  | '\r' :: cs => breakCount cs + 1
  | '\n' :: cs => breakCount cs + 1
  | _ :: cs => breakCount cs

/-- Every break begins a line. -/
theorem length_physicalLines (cs : List Char) :
    (physicalLines cs).length = breakCount cs + 1 := by
  fun_induction physicalLines cs with
  | case1 => rfl
  | case2 cs ih => rw [List.length_cons, ih, breakCount]
  | case3 cs h ih => rw [List.length_cons, ih, breakCount]; exact h
  | case4 cs ih => rw [List.length_cons, ih, breakCount]
  | case5 c cs h hr hn ih => rw [List.length_modifyHead, ih, breakCount] <;> assumption

/-- Every separator begins a piece. -/
theorem length_splitOn (sep : Char) (cs : List Char) :
    (cs.splitOn sep).length = cs.count sep + 1 := by
  induction cs with
  | nil => simp
  | cons c cs ih =>
    rw [List.splitOn_cons_eq_if_modifyHead, List.count_cons]
    split_ifs with hc
    · rw [List.length_cons, ih]
    · rw [List.length_modifyHead, ih, Nat.add_zero]

/-! ## Other ways to write breaks -/

/-- A text with its line feeds written in another way. -/
def respell (lineEnd cs : List Char) : List Char :=
  cs.flatMap fun c => if c = '\n' then lineEnd else [c]

theorem respell_cons (lineEnd : List Char) (c : Char) (cs : List Char) :
    respell lineEnd (c :: cs) = (if c = '\n' then lineEnd else [c]) ++ respell lineEnd cs :=
  List.flatMap_cons

theorem lineFeed_notMem_respell {lineEnd : List Char} (h : '\n' ∉ lineEnd) (cs : List Char) :
    '\n' ∉ respell lineEnd cs := by
  intro hmem
  obtain ⟨c, _, hc⟩ := List.mem_flatMap.mp hmem
  split_ifs at hc with hn
  · exact h hc
  · exact hn (List.mem_singleton.mp hc).symm

/-- **Breaks written in another way** are the same breaks. -/
theorem unifyBreaks_respell {cs : List Char} (h : '\r' ∉ cs) :
    unifyBreaks (respell ['\r', '\n'] cs) = cs ∧ unifyBreaks (respell ['\r'] cs) = cs := by
  induction cs with
  | nil => exact ⟨rfl, rfl⟩
  | cons c cs ih =>
    obtain ⟨ihBoth, ihReturn⟩ := ih fun hmem => h (List.mem_cons_of_mem _ hmem)
    have hc : c ≠ '\r' := fun e => h (e ▸ List.mem_cons_self)
    rw [respell_cons, respell_cons]
    by_cases hn : c = '\n'
    · subst hn
      -- a lone carriage return stays lone, since no line feed is left
      have hlone : ∀ ds, respell ['\r'] cs ≠ '\n' :: ds := by
        intro ds hds
        have hno : '\n' ∉ respell ['\r'] cs := lineFeed_notMem_respell (by decide) cs
        exact hno (hds ▸ List.mem_cons_self)
      exact ⟨(unifyBreaks_both _).trans (congrArg _ ihBoth),
        (unifyBreaks_return hlone).trans (congrArg _ ihReturn)⟩
    · rw [if_neg hn, if_neg hn]
      exact ⟨(unifyBreaks_cons hc _).trans (congrArg _ ihBoth),
        (unifyBreaks_cons hc _).trans (congrArg _ ihReturn)⟩

/-! ## The lines that count -/

/-- Some lines without the last one if that is empty. -/
def dropBlankEnd (ls : List (List Char)) : List (List Char) :=
  if ls.getLast? = some [] then ls.dropLast else ls

theorem dropBlankEnd_cons (l : List Char) {ls : List (List Char)} (h : ls ≠ []) :
    dropBlankEnd (l :: ls) = l :: dropBlankEnd ls := by
  obtain ⟨m, ms, rfl⟩ := List.exists_cons_of_ne_nil h
  unfold dropBlankEnd
  rw [List.getLast?_cons_cons, List.dropLast_cons_cons]
  split_ifs <;> rfl

theorem dropBlankEnd_isPrefix (ls : List (List Char)) : dropBlankEnd ls <+: ls := by
  unfold dropBlankEnd
  split_ifs
  · exact List.dropLast_prefix ls
  · exact List.prefix_rfl

theorem length_dropBlankEnd (ls : List (List Char)) :
    (dropBlankEnd ls).length = ls.length - if ls.getLast? = some [] then 1 else 0 := by
  unfold dropBlankEnd
  split_ifs
  · exact List.length_dropLast
  · rfl

theorem lt_length_dropBlankEnd {l : List Char} (hl : l ≠ []) (before after : List (List Char)) :
    before.length < (dropBlankEnd (before ++ l :: after)).length := by
  rw [length_dropBlankEnd, List.length_append, List.length_cons]
  split_ifs with hlast
  · have hafter : after ≠ [] := by
      rintro rfl
      rw [List.getLast?_concat] at hlast
      exact hl (Option.some.inj hlast)
    have := List.length_pos_of_ne_nil hafter
    omega
  · omega

theorem finishLine_of_notMem {l : List Char} (h : '\r' ∉ l) : finishLine l = l.reverse := by
  unfold finishLine
  split
  · simp at h
  · rfl

theorem modifyHead_nil_append (ls : List (List Char)) :
    ls.modifyHead (([] : List Char).reverse ++ ·) = ls := by
  cases ls <;> rfl

theorem splitLinesOnto_eq {cs : List Char} (hcs : '\r' ∉ cs) :
    ∀ {current : List Char}, '\r' ∉ current → ∀ done : List (List Char),
      splitLinesOnto done current cs = done.reverse ++
        dropBlankEnd ((cs.splitOn '\n').modifyHead (current.reverse ++ ·)) := by
  induction cs with
  | nil =>
    intro current _ done
    cases current <;> simp [splitLinesOnto, dropBlankEnd]
  | cons c cs ih =>
    intro current hcurrent done
    have hcs' : '\r' ∉ cs := fun h => hcs (List.mem_cons_of_mem _ h)
    have hc : c ≠ '\r' := fun e => hcs (e ▸ List.mem_cons_self)
    by_cases hn : c = '\n'
    · subst hn
      rw [splitLinesOnto, ih hcs' List.not_mem_nil, finishLine_of_notMem hcurrent,
        modifyHead_nil_append, List.splitOn_cons_eq_if_modifyHead, if_pos (beq_self_eq_true _),
        List.modifyHead_cons, dropBlankEnd_cons _ (List.splitOn_ne_nil _ _)]
      simp
    · rw [splitLinesOnto, ih hcs' (by simp [hcurrent, Ne.symm hc]),
        List.splitOn_cons_eq_if_modifyHead, if_neg (by simpa using hn), List.modifyHead_modifyHead]
      · simp [Function.comp_def]
      · exact hn

/-- **The lines of a text** are its pieces between the line feeds, without an empty last one. -/
theorem splitLines_eq {cs : List Char} (h : '\r' ∉ cs) :
    splitLines cs = dropBlankEnd (cs.splitOn '\n') := by
  rw [splitLines, splitLinesOnto_eq h List.not_mem_nil, modifyHead_nil_append]
  rfl

end TestLocator.Text
