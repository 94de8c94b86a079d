import TestLocator.Proofs.Batch.Summary
import TestLocator.Proofs.Json.Decoding

/-!
# What a descriptor tells

* `IsVoid`, `isTruthy_eq_false_iff` — the values that stand for nothing;
* `LastMember`, `memberIn?_eq_some_iff` — a name may come several times, and its last member counts;
* `Candidate`, `candidate?_eq_some_iff` — the value in a descriptor that tells the line;
* `TellsLine`, `targetLine_eq_ok_iff` — a text tells a line;
* **`targetLine_exact`** — a descriptor has the line that it tells; else it is malformed input.
-/

namespace TestLocator.Batch

open TestLocator.Json TestLocator.Locating TestLocator.Text

/-! ## Values that stand for nothing -/

/-- A value stands for nothing: it is nothing, falsehood, a number of size zero, or empty. -/
inductive IsVoid : Value → Prop
  | null : IsVoid .null
  | no : IsVoid (.boolean false)
  | natural : IsVoid (.number (.natural 0))
  | negative : IsVoid (.number (.negative 0))
  | double (isNegative : Bool) (exponent : Int) :
    IsVoid (.number (.double isNegative ⟨0, exponent⟩))
  | string : IsVoid (.string "")
  | array : IsVoid (.array [])
  | object : IsVoid (.object [])

theorem isTruthy_eq_false_iff {v : Value} : v.isTruthy = false ↔ IsVoid v := by
  constructor
  · intro h
    cases v with
    | null => exact .null
    | boolean b =>
      obtain rfl : b = false := h
      exact .no
    | number x =>
      cases x with
      | natural n =>
        obtain rfl : n = 0 := by simpa [Value.isTruthy] using h
        exact .natural
      | negative n =>
        obtain rfl : n = 0 := by simpa [Value.isTruthy] using h
        exact .negative
      | double isNegative d =>
        obtain ⟨m, e⟩ := d
        obtain rfl : m = 0 := by simpa [Value.isTruthy, Double.isZero] using h
        exact .double isNegative e
    | string s =>
      obtain rfl : s = "" := by simpa [Value.isTruthy] using h
      exact .string
    | array items =>
      obtain rfl : items = [] := by simpa [Value.isTruthy] using h
      exact .array
    | object members =>
      obtain rfl : members = [] := by simpa [Value.isTruthy] using h
      exact .object
  · rintro ⟨⟩ <;> rfl

/-! ## The last member of a name -/

/-- The last member of a name in an object. -/
inductive LastMember (key : String) (v : Value) : List (String × Value) → Prop
  | intro {before after : List (String × Value)} : (∀ m ∈ after, m.1 ≠ key) →
    LastMember key v (before ++ (key, v) :: after)

variable {key : String} {v c : Value} {ms : List (String × Value)}

theorem memberIn?_eq_some_iff : Value.memberIn? key ms = some v ↔ LastMember key v ms := by
  simp only [Value.memberIn?, Option.map_eq_some_iff, List.find?_eq_some_iff_append, beq_iff_eq]
  constructor
  · rintro ⟨m, ⟨rfl, after, before, heq, hafter⟩, rfl⟩
    rw [List.reverse_eq_iff, List.reverse_append, List.reverse_cons, List.append_assoc,
      List.singleton_append] at heq
    rw [heq]
    refine .intro fun m hm => ?_
    simpa using hafter m (List.mem_reverse.mp hm)
  · rintro (@⟨before, after, hafter⟩)
    refine ⟨(key, v), ⟨rfl, after.reverse, before.reverse, by simp, fun m hm => ?_⟩, rfl⟩
    simpa using hafter m (List.mem_reverse.mp hm)

/-- The candidate of a value: a number itself; of an object the first line if it stands for
something, else the line. -/
inductive Candidate : Value → Value → Prop
  | number (x : Number) : Candidate (.number x) (.number x)
  | startLine {ms : List (String × Value)} {v : Value} : LastMember "startLine" v ms → ¬ IsVoid v →
    Candidate (.object ms) v
  | line {ms : List (String × Value)} {v : Value} : (∀ u, LastMember "startLine" u ms → IsVoid u) →
    LastMember "line" v ms → Candidate (.object ms) v

theorem candidate?_eq_some_iff : candidate? v = some c ↔ Candidate v c := by
  constructor
  · intro h
    cases v with
    | object ms =>
      simp only [candidate?] at h
      split at h
      · next u hfirst =>
        obtain ⟨hu, htruthy⟩ := Option.filter_eq_some_iff.mp hfirst
        cases h
        refine .startLine (memberIn?_eq_some_iff.mp hu) fun hvoid => ?_
        rw [isTruthy_eq_false_iff.mpr hvoid] at htruthy
        contradiction
      · next hfirst =>
        refine .line (fun u hu => ?_) (memberIn?_eq_some_iff.mp h)
        rw [memberIn?_eq_some_iff.mpr hu, Option.filter_eq_none_iff] at hfirst
        exact isTruthy_eq_false_iff.mp (Bool.eq_false_iff.mpr (hfirst u rfl))
    | number x =>
      cases h
      exact .number x
    | null => contradiction
    | boolean b => contradiction
    | string s => contradiction
    | array items => contradiction
  · intro h
    cases h with
    | number x => rfl
    | startLine hv hvoid =>
      have htruthy := Bool.not_eq_false _ ▸ mt isTruthy_eq_false_iff.mp hvoid
      simp only [candidate?, memberIn?_eq_some_iff.mpr hv, Option.filter_some_pos htruthy]
    | line hvoid hline =>
      simp only [candidate?]
      split
      · next u hfirst =>
        obtain ⟨hu, htruthy⟩ := Option.filter_eq_some_iff.mp hfirst
        rw [isTruthy_eq_false_iff.mpr (hvoid u (memberIn?_eq_some_iff.mp hu))] at htruthy
        contradiction
      · exact memberIn?_eq_some_iff.mpr hline

theorem natural?_eq_some_iff {n : Nat} : v.natural? = some n ↔ v = .number (.natural n) := by
  constructor
  · intro h
    unfold Value.natural? at h
    split at h
    · cases h
      rfl
    · contradiction
  · rintro rfl
    rfl

theorem lineOf?_eq_some_iff {n : Nat} :
    lineOf? v = some n ↔ Candidate v (.number (.natural n)) ∧ 1 ≤ n := by
  simp only [lineOf?, Option.filter_eq_some_iff, Option.bind_eq_some_iff, candidate?_eq_some_iff,
    natural?_eq_some_iff, decide_eq_true_iff, exists_eq_right, Nat.succ_le_iff]

/-! ## Candidates are numbers of 64 bits -/

theorem exists_spells_of_member {levels : Nat} {m : String × Value} {x : List Char}
    (h : SpellsMember levels m x) : ∃ y, Spells levels m.2 y := by
  obtain ⟨_, _, _, hx⟩ := h
  exact ⟨_, hx⟩

theorem exists_spells_of_mem {levels : Nat} {ms : List (String × Value)} {w : List Char}
    (h : SpellsMembers levels ms w) {m : String × Value} (hm : m ∈ ms) :
    ∃ x, Spells levels m.2 x := by
  match h with
  | .nil => contradiction
  | .last hx _ =>
    obtain rfl := List.mem_singleton.mp hm
    exact exists_spells_of_member hx
  | .cons hx _ _ _ hms =>
    obtain rfl | hm := List.mem_cons.mp hm
    · exact exists_spells_of_member hx
    · exact exists_spells_of_mem hms hm

theorem LastMember.mem (h : LastMember key v ms) : (key, v) ∈ ms := by
  obtain ⟨_⟩ := h
  exact List.mem_append_right _ List.mem_cons_self

theorem Candidate.exists_spells {levels : Nat} {w : List Char} (hc : Candidate v c)
    (hv : Spells levels v w) : ∃ levels x, Spells levels c x := by
  cases hc with
  | number x => exact ⟨levels, w, hv⟩
  | startLine hlast _ =>
    cases hv with
    | object _ hms => exact ⟨_, exists_spells_of_mem hms hlast.mem⟩
  | line _ hlast =>
    cases hv with
    | object _ hms => exact ⟨_, exists_spells_of_mem hms hlast.mem⟩

theorem Candidate.lt_of_spellsText {text : List Char} {n : Nat}
    (hc : Candidate v (.number (.natural n))) (hv : SpellsText v text) : n < Nat.pow 2 64 := by
  obtain ⟨_, hv, _⟩ := hv
  obtain ⟨_, _, hx⟩ := hc.exists_spells hv
  cases hx with
  | number hx => exact (spellsNumber_natural_iff.mp hx).2

/-! ## The line of a descriptor -/

theorem targetLine_eq_ok_iff {raw : String} {n : Nat} : targetLine raw = .ok n ↔
    ∃ v, SpellsText v (normalizeDescriptor raw.toList) ∧ lineOf? v = some n := by
  unfold targetLine
  constructor
  · intro h
    split at h
    · contradiction
    · next hcons =>
      split at h
      · contradiction
      · next v hv =>
        split at h
        · next hline =>
          cases h
          exact ⟨v, hcons ▸ ofText_eq_ok_iff.mp hv, hline⟩
        · contradiction
  · rintro ⟨v, hv, hline⟩
    split
    · next hnil => exact absurd hnil hv.ne_nil
    · next hcons =>
      rw [hcons] at hv
      simp only [ofText_eq_ok_iff.mpr hv, hline]

/-- The text of a descriptor tells a line: without the blanks around it and with double quotes for
single ones it is a value, and the candidate of the value is the number of the line. -/
def TellsLine (raw : String) (n : Nat) : Prop :=
  1 ≤ n ∧ n < Nat.pow 2 64 ∧ ∃ v,
    SpellsText v ((trim raw.toList).map fun c => if c = '\'' then '"' else c) ∧
      Candidate v (.number (.natural n))

theorem targetLine_of_candidate {raw : String} {n : Nat}
    (hv : SpellsText v (normalizeDescriptor raw.toList)) (hc : Candidate v (.number (.natural n)))
    (hn : 1 ≤ n) : targetLine raw = .ok n :=
  targetLine_eq_ok_iff.mpr ⟨v, hv, lineOf?_eq_some_iff.mpr ⟨hc, hn⟩⟩

theorem exists_reason_of_targetLine {raw : String} {e : Failure} (h : targetLine raw = .error e) :
    ∃ reason, e = .malformedInput reason := by
  have hkind := targetLine_malformed h
  cases e with
  | malformedInput reason => exact ⟨reason, rfl⟩
  | _ => contradiction

/-- **A descriptor has the line that its text tells**; if it tells none, it is malformed input. -/
theorem targetLine_exact (raw : String) :
    (∀ n, targetLine raw = .ok n ↔ TellsLine raw n) ∧
      ((∃ n, targetLine raw = .ok n) ∨
        ∃ reason, targetLine raw = .error (.malformedInput reason)) := by
  refine ⟨fun n => ⟨fun h => ?_, fun h => ?_⟩, ?_⟩
  · obtain ⟨v, hv, hline⟩ := targetLine_eq_ok_iff.mp h
    obtain ⟨hc, hn⟩ := lineOf?_eq_some_iff.mp hline
    exact ⟨hn, hc.lt_of_spellsText hv, v, hv, hc⟩
  · obtain ⟨hn, -, v, hv, hc⟩ := h
    exact targetLine_of_candidate hv hc hn
  · cases h : targetLine raw with
    | ok n => exact .inl ⟨n, rfl⟩
    | error e =>
      obtain ⟨reason, rfl⟩ := exists_reason_of_targetLine h
      exact .inr ⟨reason, rfl⟩

end TestLocator.Batch
