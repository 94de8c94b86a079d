import Mathlib.Data.List.Basic
import TestLocator.Text.Blank

/-!
# What is left between blanks

* `dropWhile_append`, `dropEndWhile_append` — characters of a class in front of a text and after it;
* `Trimmed`, `Trimmed.append`, `trimmed_of_no_blank` — a text without blanks at its ends;
* **`trim_append`** — it is what is left when the blanks around it are taken away.
-/

namespace TestLocator.Text

/-- A text neither begins nor ends with a blank. -/
def Trimmed (cs : List Char) : Prop :=
  (∀ c ∈ cs.head?, ¬ isBlank c) ∧ ∀ c ∈ cs.getLast?, ¬ isBlank c

instance : DecidablePred Trimmed := fun cs =>
  @instDecidableAnd _ _ (Option.decidableForallMem cs.head?) (Option.decidableForallMem cs.getLast?)

section

variable {p : Char → Bool} {before cs after : List Char}

theorem dropWhile_append (hbefore : ∀ c ∈ before, p c) (hcs : ∀ c ∈ cs.head?, ¬ p c) :
    (before ++ cs).dropWhile p = cs := by
  rw [List.dropWhile_append_of_pos hbefore]
  cases cs with
  | nil => rfl
  | cons c cs => exact List.dropWhile_cons_of_neg (hcs c rfl)

theorem dropEndWhile_append (hcs : ∀ c ∈ cs.getLast?, ¬ p c) (hafter : ∀ c ∈ after, p c) :
    dropEndWhile p (cs ++ after) = cs := by
  have hlast : ∀ c ∈ cs.reverse.head?, ¬ p c := by rwa [List.head?_reverse]
  have hrun : ∀ c ∈ after.reverse, p c := fun c hc => hafter c (List.mem_reverse.mp hc)
  rw [dropEndWhile, List.reverse_append, dropWhile_append hrun hlast, List.reverse_reverse]

end

/-- A text without blanks has none at its ends. -/
theorem trimmed_of_no_blank {cs : List Char} (h : ∀ c ∈ cs, ¬ isBlank c) : Trimmed cs :=
  ⟨fun c hc => h c (List.mem_of_mem_head? hc), fun c hc => h c (List.mem_of_getLast? hc)⟩

theorem Trimmed.append {cs ds : List Char} (hcs : Trimmed cs) (hds : Trimmed ds) :
    Trimmed (cs ++ ds) := by
  by_cases hc : cs = []
  · rwa [hc, List.nil_append]
  · by_cases hd : ds = []
    · rwa [hd, List.append_nil]
    · rw [Trimmed, List.head?_append_of_ne_nil cs hc, List.getLast?_append_of_ne_nil cs hd]
      exact ⟨hcs.1, hds.2⟩

/-- **Blanks around a text are taken away**, and nothing else. -/
theorem trim_append {before cs after : List Char} (hbefore : ∀ c ∈ before, isBlank c)
    (hcs : Trimmed cs) (hafter : ∀ c ∈ after, isBlank c) :
    trim (before ++ (cs ++ after)) = cs := by
  by_cases hnil : cs = []
  · subst hnil
    have hblank : ∀ c ∈ before ++ after, isBlank c := fun c hc =>
      (List.mem_append.mp hc).elim (hbefore c) (hafter c)
    rw [List.nil_append, trim, ← List.append_nil (before ++ after),
      dropWhile_append hblank (by simp)]
    rfl
  · have hhead : ∀ c ∈ (cs ++ after).head?, ¬ isBlank c := by
      rw [List.head?_append_of_ne_nil cs hnil]
      exact hcs.1
    rw [trim, dropWhile_append hbefore hhead, dropEndWhile_append hcs.2 hafter]

end TestLocator.Text
