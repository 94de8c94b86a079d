import TestLocator.Proofs.Text.Removal

/-!
# Occurrences that are left

Leaving a word out goes over a text once. What stood on both sides of an occurrence comes together,
and may form a new one.

* `Removal.exists_pieces` — every occurrence that is met is left out: the pieces between them hold
  none;
* `removal_self_iff` — nothing is left out exactly where the word does not occur;
* `Uniform`, `Removal.not_infix_of_uniform` — a word of one character, written any number of times,
  is gone from every text;
* **`exists_removal_self`** — any other word is left of some text.
-/

namespace TestLocator.Text

variable {word cs ds : List Char}

/-! ## Pieces between occurrences -/

theorem prefix_intercalate_cons (p : List Char) (ps : List (List Char)) :
    p <+: word.intercalate (p :: ps) := by
  cases ps with
  | nil => simp
  | cons q qs =>
    rw [List.intercalate_cons_cons, List.append_assoc]
    exact List.prefix_append p _

theorem intercalate_cons_front (c : Char) (p : List Char) (ps : List (List Char)) :
    word.intercalate ((c :: p) :: ps) = c :: word.intercalate (p :: ps) := by
  cases ps with
  | nil => simp
  | cons q qs => simp [List.intercalate_cons_cons]

/-- **A text is cut at the occurrences that are left out**, and no piece of it holds the word. -/
theorem Removal.exists_pieces (hword : word ≠ []) (h : Removal word cs ds) :
    ∃ ps, word.intercalate ps = cs ∧ ps.flatten = ds ∧ ∀ p ∈ ps, ¬ word <:+: p := by
  -- there is a first piece, which a character that stays goes to
  suffices hfirst : ∃ p ps, word.intercalate (p :: ps) = cs ∧ (p :: ps).flatten = ds ∧
      ∀ q ∈ p :: ps, ¬ word <:+: q by
    obtain ⟨p, ps, hps⟩ := hfirst
    exact ⟨p :: ps, hps⟩
  induction h with
  | nil =>
    refine ⟨[], [], by simp, by simp, fun q hq hin => hword ?_⟩
    rw [List.mem_singleton.mp hq] at hin
    exact List.infix_nil.mp hin
  | skip _ _ ih =>
    obtain ⟨p, ps, hcs, hds, hno⟩ := ih
    refine ⟨[], p :: ps, ?_, ?_, ?_⟩
    · rw [List.intercalate_cons_cons, hcs, List.nil_append]
    · rw [List.flatten_cons, hds, List.nil_append]
    · intro q hq hin
      rcases List.mem_cons.mp hq with rfl | hq
      · exact hword (List.infix_nil.mp hin)
      · exact hno q hq hin
  | @keep c cs ds hkeep _ ih =>
    obtain ⟨p, ps, hcs, hds, hno⟩ := ih
    have hfront : p <+: cs := hcs ▸ prefix_intercalate_cons p ps
    refine ⟨c :: p, ps, ?_, ?_, ?_⟩
    · rw [intercalate_cons_front, hcs]
    · rw [← hds, List.flatten_cons, List.flatten_cons, List.cons_append]
    · intro q hq hin
      rcases List.mem_cons.mp hq with rfl | hq
      · rcases List.infix_cons_iff.mp hin with hpre | hin
        · exact hkeep.resolve_left hword (hpre.trans (List.cons_prefix_cons.mpr ⟨rfl, hfront⟩))
        · exact hno p List.mem_cons_self hin
      · exact hno q (List.mem_cons_of_mem _ hq) hin

/-! ## Texts without the word -/

theorem Removal.of_free : ∀ {cs : List Char}, ¬ word <:+: cs → Removal word cs cs
  | [], _ => .nil
  | c :: cs, h => by
    have hcs : ¬ word <:+: cs := fun hin => h (List.infix_cons_iff.mpr (.inr hin))
    exact .keep (.inr fun hpre => h hpre.isInfix) (of_free hcs)

theorem Removal.not_infix_of_eq (hword : word ≠ []) (h : Removal word cs ds) (heq : ds = cs) :
    ¬ word <:+: cs := by
  induction h with
  | nil => exact fun hin => hword (List.infix_nil.mp hin)
  | @skip cs ds _ hrest _ =>
    -- what is left is shorter than the text
    have hlen := hrest.sublist.length_le
    have hpos := List.length_pos_of_ne_nil hword
    rw [heq, List.length_append] at hlen
    omega
  | @keep c cs ds hkeep _ ih =>
    intro hin
    rcases List.infix_cons_iff.mp hin with hpre | hin
    · exact hkeep.resolve_left hword hpre
    · exact ih (List.cons.inj heq).2 hin

theorem removal_self_iff (hword : word ≠ []) : Removal word cs cs ↔ ¬ word <:+: cs :=
  ⟨fun h => h.not_infix_of_eq hword rfl, .of_free⟩

/-! ## Words of one character -/

/-- A word is one character, written any number of times. -/
def Uniform (word : List Char) : Prop := ∃ c, ∀ x ∈ word, x = c

theorem Removal.replicate_prefix {c : Char} {n : Nat} (h : Removal (.replicate n c) cs ds) :
    ∀ {k}, k ≤ n → List.replicate k c <+: ds → List.replicate k c <+: cs := by
  induction h with
  | nil => exact fun _ hpre => hpre
  | @skip cs ds _ _ _ =>
    intro k hk _
    have hn : List.replicate n c = List.replicate k c ++ List.replicate (n - k) c := by
      rw [← List.replicate_add]
      congr 1
      omega
    rw [hn, List.append_assoc]
    exact List.prefix_append _ _
  | @keep x cs ds _ _ ih =>
    intro k hk hpre
    cases k with
    | zero => exact List.nil_prefix
    | succ k =>
      rw [List.replicate_succ, List.cons_prefix_cons] at hpre ⊢
      exact ⟨hpre.1, ih (by omega) hpre.2⟩

/-- **A word of one character** is gone. -/
theorem Removal.not_infix_of_uniform (hword : word ≠ []) (huniform : Uniform word)
    (h : Removal word cs ds) : ¬ word <:+: ds := by
  obtain ⟨c, hc⟩ := huniform
  have hrep : word = .replicate word.length c := List.eq_replicate_iff.mpr ⟨rfl, hc⟩
  induction h with
  | nil => exact fun hin => hword (List.infix_nil.mp hin)
  | skip _ _ ih => exact ih
  | @keep x cs ds hkeep hrest ih =>
    intro hin
    rcases List.infix_cons_iff.mp hin with hpre | hin
    · have hall : Removal (.replicate word.length c) (x :: cs) (x :: ds) := by
        rw [← hrep]
        exact .keep hkeep hrest
      rw [hrep] at hpre
      have hfront := hall.replicate_prefix (Nat.le_refl _) hpre
      rw [← hrep] at hfront
      exact hkeep.resolve_left hword hfront
    · exact ih hin

/-! ## Other words -/

theorem exists_run (c : Char) : ∀ ws : List Char, (∀ x ∈ ws, x = c) ∨
    ∃ k b vs, ws = List.replicate k c ++ b :: vs ∧ b ≠ c
  | [] => .inl fun _ h => absurd h List.not_mem_nil
  | x :: ws => by
    by_cases hx : x = c
    · subst hx
      rcases exists_run x ws with h | ⟨k, b, vs, rfl, hb⟩
      · exact .inl (List.forall_mem_cons.mpr ⟨rfl, h⟩)
      · exact .inr ⟨k + 1, b, vs, rfl, hb⟩
    · exact .inr ⟨0, x, ws, rfl, hx⟩

theorem not_replicate_append_prefix {b c : Char} (hb : b ≠ c) (vs rest : List Char) (j k : Nat) :
    ¬ List.replicate k c ++ b :: vs <+: List.replicate (j + 1 + k) c ++ rest := by
  induction k with
  | zero => exact fun hpre => hb (List.cons_prefix_cons.mp hpre).1
  | succ k ih =>
    rw [← Nat.add_assoc, List.replicate_succ, List.replicate_succ, List.cons_append,
      List.cons_append, List.cons_prefix_cons]
    exact fun hpre => ih hpre.2

/-- **A word of several characters is left of some text.** -/
theorem exists_removal_self (hword : word ≠ []) (h : ¬ Uniform word) :
    ∃ front back, word = front ++ back ∧ Removal word (front ++ (word ++ back)) word := by
  obtain ⟨c, ws, rfl⟩ := List.exists_cons_of_ne_nil hword
  obtain hall | ⟨k, b, vs, hrun, hb⟩ := exists_run c (c :: ws)
  · exact absurd ⟨c, hall⟩ h
  have hk : k ≠ 0 := by
    rintro rfl
    exact hb (List.cons.inj hrun).1.symm
  refine ⟨.replicate k c, b :: vs, hrun, ?_⟩
  rw [hrun]
  -- no occurrence begins in the first run, since a longer run follows
  have hfront : ∀ j, Removal (.replicate k c ++ b :: vs)
      (.replicate j c ++ ((.replicate k c ++ b :: vs) ++ b :: vs)) (.replicate j c ++ b :: vs) := by
    intro j
    induction j with
    | zero =>
      -- and what follows the occurrence is too short for another one
      refine .skip (by simp) (.of_free fun hin => ?_)
      have hlen := hin.length_le
      rw [List.length_append, List.length_replicate] at hlen
      omega
    | succ j ih =>
      refine .keep (.inr fun hpre => ?_) ih
      refine not_replicate_append_prefix hb vs ((b :: vs) ++ b :: vs) j k ?_
      rw [List.replicate_add, List.replicate_succ, List.append_assoc, List.cons_append]
      rwa [List.append_assoc] at hpre
  exact hfront k

end TestLocator.Text
