import Mathlib.Data.List.Basic
import Mathlib.Data.List.Forall2
import TestLocator.Text.Lines

/-!
# Leaving a word out

* `Removal` — one text is another without the occurrences of a word;
* `removal_removeAll`, `removal_iff` — leaving a word out does that and nothing else does;
* `Removal.of_notMem`, `Removal.forall₂_splitOn` — it can be done line by line.
-/

namespace TestLocator.Text

/-- Reading a text from left to right and leaving out each occurrence of a word that is met gives
another text. An empty word does not occur. -/
inductive Removal (word : List Char) : List Char → List Char → Prop
  | nil : Removal word [] []
  /-- An occurrence is left out as a whole, so the next one starts after it. -/
  | skip {cs ds : List Char} : word ≠ [] → Removal word cs ds → Removal word (word ++ cs) ds
  /-- A character stays where no occurrence starts. -/
  | keep {c : Char} {cs ds : List Char} :
    word = [] ∨ ¬ word <+: c :: cs → Removal word cs ds → Removal word (c :: cs) (c :: ds)

variable {word cs ds : List Char}

/-! ## Leaving a word out of a text -/

theorem removeAllOnto_append (done kept : List Char) (skip : Nat) (cs : List Char) :
    removeAllOnto word (done ++ kept) skip cs =
      kept.reverse ++ removeAllOnto word done skip cs := by
  fun_induction removeAllOnto word done skip cs with
  | case1 => simp [removeAllOnto]
  | case2 done skip c cs ih => rw [removeAllOnto, ih]
  | case3 done c cs h ih => rw [removeAllOnto, if_pos h, ih]
  | case4 done c cs h ih => rw [removeAllOnto, if_neg h, ← ih, List.cons_append]

/-- The characters of an occurrence are passed over. -/
theorem removeAllOnto_skip (done cs : List Char) : ∀ occurrence : List Char,
    removeAllOnto word done occurrence.length (occurrence ++ cs) = removeAllOnto word done 0 cs
  | [] => rfl
  | _ :: occurrence => by
    rw [List.cons_append, List.length_cons, removeAllOnto, removeAllOnto_skip done cs occurrence]

theorem removeAllOnto_word (hword : word ≠ []) (cs : List Char) :
    removeAllOnto word [] 0 (word ++ cs) = removeAllOnto word [] 0 cs := by
  obtain ⟨c, ws, rfl⟩ := List.exists_cons_of_ne_nil hword
  have hpre : (c :: ws).isPrefixOf (c :: (ws ++ cs)) := by simp
  rw [List.cons_append, removeAllOnto, if_pos hpre, List.length_cons, Nat.add_sub_cancel,
    removeAllOnto_skip]

theorem removeAllOnto_keep {c : Char} (h : ¬ word <+: c :: cs) :
    removeAllOnto word [] 0 (c :: cs) = c :: removeAllOnto word [] 0 cs := by
  rw [removeAllOnto, if_neg (by simpa using h)]
  exact removeAllOnto_append [] [c] 0 cs

theorem removal_nil_word : ∀ cs : List Char, Removal [] cs cs
  | [] => .nil
  | _ :: cs => .keep (.inl rfl) (removal_nil_word cs)

/-- **Leaving a word out** leaves out its occurrences from left to right. -/
theorem removal_removeAll (word cs : List Char) : Removal word cs (removeAll word cs) := by
  by_cases hword : word = []
  · subst hword
    exact removal_nil_word cs
  · rw [removeAll, if_neg (by simpa using hword)]
    obtain ⟨k, hk⟩ : ∃ k, cs.length = k := ⟨_, rfl⟩
    induction k using Nat.strongRecOn generalizing cs with
    | _ k ih =>
      by_cases hpre : word <+: cs
      · obtain ⟨rest, rfl⟩ := hpre
        have hpos : 0 < word.length := List.length_pos_of_ne_nil hword
        rw [removeAllOnto_word hword]
        exact .skip hword (ih rest.length (by rw [← hk, List.length_append]; omega) rest rfl)
      · cases cs with
        | nil => exact .nil
        | cons c cs =>
          rw [removeAllOnto_keep hpre]
          exact .keep (.inr hpre) (ih cs.length (by rw [← hk]; exact Nat.lt_succ_self _) cs rfl)

theorem Removal.eq_removeAll (h : Removal word cs ds) : ds = removeAll word cs := by
  induction h with
  | nil => cases word <;> rfl
  | @skip cs ds hword _ ih =>
    have hempty : ¬ word.isEmpty = true := by simpa using hword
    rw [removeAll, if_neg hempty] at ih ⊢
    rw [removeAllOnto_word hword, ih]
  | @keep c cs ds hno _ ih =>
    by_cases hword : word = []
    · subst hword
      exact congrArg (c :: ·) ih
    · have hempty : ¬ word.isEmpty = true := by simpa using hword
      rw [removeAll, if_neg hempty] at ih ⊢
      rw [removeAllOnto_keep (hno.resolve_left hword), ih]

theorem removal_iff : Removal word cs ds ↔ ds = removeAll word cs :=
  ⟨Removal.eq_removeAll, fun h => h ▸ removal_removeAll word cs⟩

theorem Removal.sublist (h : Removal word cs ds) : ds.Sublist cs := by
  induction h with
  | nil => exact .slnil
  | skip _ _ ih => exact ih.trans (List.sublist_append_right _ _)
  | keep _ _ ih => exact ih.cons_cons _

/-! ## Leaving a word out line by line -/

theorem Removal.of_notMem {sep : Char} (hword : sep ∈ word) :
    ∀ {cs : List Char}, sep ∉ cs → Removal word cs cs
  | [], _ => .nil
  | c :: cs, h => by
    refine .keep (.inr fun hpre => h (hpre.subset hword)) (of_notMem hword fun hmem => ?_)
    exact h (List.mem_cons_of_mem _ hmem)

theorem notMem_of_mem_splitOn {sep : Char} {l : List Char} (h : l ∈ cs.splitOn sep) : sep ∉ l := by
  induction cs generalizing l with
  | nil =>
    rw [List.splitOn_nil, List.mem_singleton] at h
    rw [h]
    exact List.not_mem_nil
  | cons c cs ih =>
    obtain ⟨m, ms, hsplit⟩ := List.exists_cons_of_ne_nil (List.splitOn_ne_nil sep cs)
    rw [List.splitOn_cons_eq_if_modifyHead, hsplit] at h
    rw [hsplit] at ih
    split_ifs at h with hc
    · rcases List.mem_cons.mp h with rfl | h
      · exact List.not_mem_nil
      · exact ih h
    · rcases List.mem_cons.mp h with rfl | h
      · intro hmem
        rcases List.mem_cons.mp hmem with rfl | hmem
        · exact hc (beq_self_eq_true _)
        · exact ih List.mem_cons_self hmem
      · exact ih (List.mem_cons_of_mem _ h)

theorem splitOn_append_of_notMem {sep : Char} {l m : List Char} {ms : List (List Char)}
    (hl : sep ∉ l) (hsplit : cs.splitOn sep = m :: ms) :
    (l ++ cs).splitOn sep = (l ++ m) :: ms := by
  induction l with
  | nil => exact hsplit
  | cons c l ih =>
    have hc : (c == sep) = false := beq_eq_false_iff_ne.mpr fun e => hl (e ▸ List.mem_cons_self)
    have hrest := ih fun hmem => hl (List.mem_cons_of_mem _ hmem)
    rw [List.cons_append, List.splitOn_cons_eq_if_modifyHead, hc, hrest]
    rfl

theorem prefix_of_splitOn {sep : Char} {m : List Char} {ms : List (List Char)}
    (hsplit : cs.splitOn sep = m :: ms) : m <+: cs := by
  have hjoin : [sep].intercalate (cs.splitOn sep) = cs := List.intercalate_splitOn sep
  rw [← hjoin, hsplit]
  cases ms with
  | nil => simp
  | cons l ls =>
    rw [List.intercalate_cons_cons, List.append_assoc]
    exact List.prefix_append m _

/-- **A word without the separator** is left out piece by piece. -/
theorem Removal.forall₂_splitOn {sep : Char} (hword : sep ∉ word) (h : Removal word cs ds) :
    List.Forall₂ (Removal word) (cs.splitOn sep) (ds.splitOn sep) := by
  induction h with
  | nil => exact .cons .nil .nil
  | @skip cs ds hne _ ih =>
    obtain ⟨m, ms, hm⟩ := List.exists_cons_of_ne_nil (List.splitOn_ne_nil sep cs)
    rw [hm] at ih
    rw [splitOn_append_of_notMem hword hm]
    cases hd : ds.splitOn sep with
    | nil => exact absurd hd (List.splitOn_ne_nil sep ds)
    | cons l ls =>
      rw [hd] at ih
      obtain ⟨hhead, htail⟩ := List.forall₂_cons.mp ih
      exact .cons (.skip hne hhead) htail
  | @keep c cs ds hno _ ih =>
    rw [List.splitOn_cons_eq_if_modifyHead, List.splitOn_cons_eq_if_modifyHead]
    split_ifs with hc
    · exact .cons .nil ih
    · obtain ⟨m, ms, hm⟩ := List.exists_cons_of_ne_nil (List.splitOn_ne_nil sep cs)
      obtain ⟨l, ls, hl⟩ := List.exists_cons_of_ne_nil (List.splitOn_ne_nil sep ds)
      rw [hm, hl] at ih ⊢
      obtain ⟨hhead, htail⟩ := List.forall₂_cons.mp ih
      refine .cons (.keep (hno.imp_right fun hno hpre => hno ?_) hhead) htail
      -- an occurrence in the first piece would be one in the text
      exact hpre.trans (List.cons_prefix_cons.mpr ⟨rfl, prefix_of_splitOn hm⟩)

end TestLocator.Text
