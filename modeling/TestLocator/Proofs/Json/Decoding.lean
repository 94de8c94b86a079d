import Mathlib.Data.List.DropRight
import TestLocator.Proofs.Json.Spelling

/-!
# The texts that are values

* `readItems_eq_ok`, `readMembers_eq_ok`, `readMember_eq_ok` — what one step has read;
* `ItemsAhead`, `MembersAhead`, `ArrayAhead`, `ObjectAhead` — what is left of an array and of an
  object;
* `ReadsSpellings`, `readsSpellings` — nothing is read that is no value;
* **`ofText_eq_ok_iff`** — a text is decoded just if it is a value.
-/

namespace TestLocator.Json

variable {levels fuel : Nat} {v : Value} {cs w g g' rest : List Char}

/-! ## What is read is a value -/

theorem exists_gaps (cs : List Char) : ∃ g, AreGaps g ∧ cs = g ++ skipGaps cs :=
  ⟨cs.takeWhile isGap, fun _ => List.mem_takeWhile_imp, (List.takeWhile_append_dropWhile ..).symm⟩

theorem AreGaps.append (hg : AreGaps g) (hg' : AreGaps g') : AreGaps (g ++ g') := fun c hc =>
  (List.mem_append.mp hc).elim (hg c) (hg' c)

theorem skipGaps_skipGaps (cs : List Char) : skipGaps (skipGaps cs) = skipGaps cs :=
  List.dropWhile_idempotent isGap cs

/-- What there is in front of an item: a comma, if it is not the first. -/
def comma (isFirst : Bool) : List Char := if isFirst then [] else [',']

theorem readItems_eq_ok {isFirst : Bool} {done : List Value} {r : Value × List Char}
    (h : readItems (fuel + 1) levels isFirst done cs = .ok r) :
    skipGaps cs = ']' :: r.2 ∧ r.1 = .array done.reverse ∨
      ∃ ds, skipGaps cs = comma isFirst ++ ds ∧
        readItem fuel levels done (skipGaps ds) = .ok r := by
  rw [readItems] at h
  split at h
  · contradiction
  · next hskip =>
    cases h
    exact .inl ⟨hskip, rfl⟩
  · next c ds _ hskip =>
    split_ifs at h with hcomma hfirst
    · obtain ⟨rfl, hnot⟩ := hcomma
      rw [Bool.not_eq_true'] at hnot
      subst hnot
      refine .inr ⟨ds, hskip, ?_⟩
      split at h
      · contradiction
      · contradiction
      · exact h
    · rw [← hskip] at h
      exact .inr ⟨skipGaps cs, by rw [hfirst]; rfl, (skipGaps_skipGaps cs).symm ▸ h⟩

theorem readMembers_eq_ok {isFirst : Bool} {done : List (String × Value)} {r : Value × List Char}
    (h : readMembers (fuel + 1) levels isFirst done cs = .ok r) :
    skipGaps cs = '\x7d' :: r.2 ∧ r.1 = .object done.reverse ∨
      ∃ ds, skipGaps cs = comma isFirst ++ ds ∧
        readMember fuel levels done (skipGaps ds) = .ok r := by
  rw [readMembers] at h
  split at h
  · contradiction
  · next hskip =>
    cases h
    exact .inl ⟨hskip, rfl⟩
  · next c ds _ hskip =>
    split_ifs at h with hcomma hfirst
    · obtain ⟨rfl, hnot⟩ := hcomma
      rw [Bool.not_eq_true'] at hnot
      subst hnot
      refine .inr ⟨ds, hskip, ?_⟩
      split at h
      · contradiction
      · contradiction
      · exact h
    · rw [← hskip] at h
      exact .inr ⟨skipGaps cs, by rw [hfirst]; rfl, (skipGaps_skipGaps cs).symm ▸ h⟩

theorem readItem_eq_ok {done : List Value} {r : Value × List Char}
    (h : readItem fuel levels done cs = .ok r) :
    ∃ v ds, readValue fuel levels cs = .ok (v, ds) ∧
      readItems fuel levels false (v :: done) ds = .ok r := by
  rw [readItem] at h
  split at h
  · contradiction
  · next v ds hread => exact ⟨v, ds, hread, h⟩

theorem readColon_eq_ok (h : readColon cs = .ok rest) : skipGaps cs = ':' :: rest := by
  rw [readColon] at h
  split at h
  · next hskip =>
    cases h
    exact hskip
  · contradiction
  · contradiction

theorem readMember_eq_ok {done : List (String × Value)} {r : Value × List Char}
    (h : readMember (fuel + 1) levels done cs = .ok r) :
    ∃ us key cs' ds v ds', cs = '"' :: us ∧ readString [] us = .ok (key, cs') ∧
      skipGaps cs' = ':' :: ds ∧ readValue fuel levels ds = .ok (v, ds') ∧
      readMembers fuel levels false ((.ofList key, v) :: done) ds' = .ok r := by
  unfold readMember at h
  split at h
  · next us =>
    split at h
    · contradiction
    · next key cs' hkey =>
      split at h
      · contradiction
      · next ds hcolon =>
        split at h
        · contradiction
        · next v ds' hread =>
          exact ⟨us, key, cs', ds, v, ds', rfl, hkey, readColon_eq_ok hcolon, hread, h⟩
  · contradiction

theorem readWord_eq_ok {v v' : Value} {ws : List Char} (h : readWord v ws cs = .ok (v', rest)) :
    v' = v ∧ cs = ws ++ rest := by
  induction ws generalizing cs with
  | nil =>
    cases h
    exact ⟨rfl, rfl⟩
  | cons w ws ih =>
    cases cs with
    | nil => contradiction
    | cons c cs =>
      rw [readWord] at h
      split_ifs at h with hc
      obtain ⟨rfl, rfl⟩ := ih h
      exact ⟨rfl, by rw [hc, List.cons_append]⟩

theorem number_of_map_eq_ok {a : Reading Number}
    (h : (a.map fun (n, rest) => (Value.number n, rest)) = .ok (v, rest)) :
    ∃ x, a = .ok (x, rest) ∧ v = .number x := by
  cases a with
  | error e => contradiction
  | ok r =>
    cases h
    exact ⟨r.1, rfl, rfl⟩

/-- The text begins with blanks, the items of an array and its end. -/
def ItemsAhead (levels : Nat) (done : List Value) (cs : List Char) (v : Value) (rest : List Char) :
    Prop :=
  ∃ g vs w, AreGaps g ∧ cs = g ++ (w ++ ']' :: rest) ∧ vs ≠ [] ∧ SpellsItems levels vs w ∧
    v = .array (done.reverse ++ vs)

/-- The text begins with blanks, the members of an object and its end. -/
def MembersAhead (levels : Nat) (done : List (String × Value)) (cs : List Char) (v : Value)
    (rest : List Char) : Prop :=
  ∃ g ms w, AreGaps g ∧ cs = g ++ (w ++ '\x7d' :: rest) ∧ ms ≠ [] ∧ SpellsMembers levels ms w ∧
    v = .object (done.reverse ++ ms)

/-- The text begins with what is left of an array. -/
def ArrayAhead (levels : Nat) (isFirst : Bool) (done : List Value) (cs : List Char) (v : Value)
    (rest : List Char) : Prop :=
  ∃ g, AreGaps g ∧ (cs = g ++ ']' :: rest ∧ v = .array done.reverse ∨
    ∃ ds, cs = g ++ (comma isFirst ++ ds) ∧ ItemsAhead levels done ds v rest)

/-- The text begins with what is left of an object. -/
def ObjectAhead (levels : Nat) (isFirst : Bool) (done : List (String × Value)) (cs : List Char)
    (v : Value) (rest : List Char) : Prop :=
  ∃ g, AreGaps g ∧ (cs = g ++ '\x7d' :: rest ∧ v = .object done.reverse ∨
    ∃ ds, cs = g ++ (comma isFirst ++ ds) ∧ MembersAhead levels done ds v rest)

theorem ItemsAhead.gaps {done : List Value} (hg : AreGaps g)
    (h : ItemsAhead levels done cs v rest) : ItemsAhead levels done (g ++ cs) v rest := by
  obtain ⟨g', vs, w, hg', rfl, hmore⟩ := h
  exact ⟨g ++ g', vs, w, hg.append hg', (List.append_assoc ..).symm, hmore⟩

theorem MembersAhead.gaps {done : List (String × Value)} (hg : AreGaps g)
    (h : MembersAhead levels done cs v rest) : MembersAhead levels done (g ++ cs) v rest := by
  obtain ⟨g', ms, w, hg', rfl, hmore⟩ := h
  exact ⟨g ++ g', ms, w, hg.append hg', (List.append_assoc ..).symm, hmore⟩

/-- What is read in so many steps is a value, what is left of an array and what is left of an
object. -/
structure ReadsSpellings (fuel : Nat) : Prop where
  value : ∀ {levels cs v rest}, readValue fuel levels cs = .ok (v, rest) →
    ∃ g w, AreGaps g ∧ cs = g ++ (w ++ rest) ∧ Spells (levels - 1) v w
  items : ∀ {levels isFirst done cs v rest},
    readItems fuel levels isFirst done cs = .ok (v, rest) →
    ArrayAhead (levels - 1) isFirst done cs v rest
  members : ∀ {levels isFirst done cs v rest},
    readMembers fuel levels isFirst done cs = .ok (v, rest) →
    ObjectAhead (levels - 1) isFirst done cs v rest
  member : ∀ {levels done cs v rest}, readMember fuel levels done cs = .ok (v, rest) →
    MembersAhead (levels - 1) done cs v rest

namespace ReadsSpellings

variable (hfuel : ReadsSpellings fuel)
include hfuel

theorem items_of_readItem {done : List Value} (h : readItem fuel levels done cs = .ok (v, rest)) :
    ItemsAhead (levels - 1) done cs v rest := by
  obtain ⟨v', ds, hread, hmore⟩ := readItem_eq_ok h
  obtain ⟨g, x, hg, rfl, hx⟩ := hfuel.value hread
  obtain ⟨g', hg', ⟨rfl, rfl⟩ | ⟨ds, rfl, gap, vs, w, hgap, rfl, hne, hw, rfl⟩⟩ := hfuel.items hmore
  · exact ⟨g, [v'], _, hg, by simp, List.cons_ne_nil _ _, .last hx hg', by simp⟩
  · exact ⟨g, v' :: vs, _, hg, by simp [comma], List.cons_ne_nil _ _, .cons hx hg' hgap hne hw,
      by simp⟩

theorem array_of_readItems {isFirst : Bool} {done : List Value}
    (h : readItems (fuel + 1) levels isFirst done cs = .ok (v, rest)) :
    ArrayAhead (levels - 1) isFirst done cs v rest := by
  obtain ⟨g, hg, hcs⟩ := exists_gaps cs
  refine ⟨g, hg, ?_⟩
  obtain ⟨hend, rfl⟩ | ⟨ds, hcomma, hitem⟩ := readItems_eq_ok h
  · exact .inl ⟨hend ▸ hcs, rfl⟩
  · obtain ⟨g', hg', hds⟩ := exists_gaps ds
    exact .inr ⟨ds, hcomma ▸ hcs, hds ▸ (hfuel.items_of_readItem hitem).gaps hg'⟩

theorem object_of_readMembers {isFirst : Bool} {done : List (String × Value)}
    (h : readMembers (fuel + 1) levels isFirst done cs = .ok (v, rest)) :
    ObjectAhead (levels - 1) isFirst done cs v rest := by
  obtain ⟨g, hg, hcs⟩ := exists_gaps cs
  refine ⟨g, hg, ?_⟩
  obtain ⟨hend, rfl⟩ | ⟨ds, hcomma, hmember⟩ := readMembers_eq_ok h
  · exact .inl ⟨hend ▸ hcs, rfl⟩
  · obtain ⟨g', hg', hds⟩ := exists_gaps ds
    exact .inr ⟨ds, hcomma ▸ hcs, hds ▸ (hfuel.member hmember).gaps hg'⟩

theorem members_of_readMember {done : List (String × Value)}
    (h : readMember (fuel + 1) levels done cs = .ok (v, rest)) :
    MembersAhead (levels - 1) done cs v rest := by
  obtain ⟨us, key, cs', ds, v', ds', rfl, hkey, hcolon, hread, hmore⟩ := readMember_eq_ok h
  obtain ⟨key, u, rfl, rfl, hu⟩ := spells_of_readString hkey
  obtain ⟨g, hg, hcs'⟩ := exists_gaps cs'
  obtain ⟨g', x, hg', rfl, hx⟩ := hfuel.value hread
  have hm : SpellsMember (levels - 1) (.ofList key, v') _ := .intro hu hg hg' hx
  rw [hcs', hcolon]
  obtain ⟨gap, hgap, ⟨rfl, rfl⟩ | ⟨ds, rfl, gap', ms, w, hgap', rfl, hne, hw, rfl⟩⟩ :=
    hfuel.members hmore
  · exact ⟨[], [_], _, areGaps_nil, by simp, List.cons_ne_nil _ _, .last hm hgap, by simp⟩
  · exact ⟨[], _ :: ms, _, areGaps_nil, by simp [comma], List.cons_ne_nil _ _,
      .cons hm hgap hgap' hne hw, by simp⟩

theorem spells_array (h : readItems fuel (levels + 1) true [] cs = .ok (v, rest)) :
    ∃ w, '[' :: cs = w ++ rest ∧ Spells (levels + 1) v w := by
  obtain ⟨g, hg, ⟨rfl, rfl⟩ | ⟨ds, rfl, g', vs, w, hg', rfl, -, hw, rfl⟩⟩ := hfuel.items h
  · exact ⟨_, by simp, .array hg .nil⟩
  · exact ⟨_, by simp [comma], .array (hg.append hg') hw⟩

theorem spells_object (h : readMembers fuel (levels + 1) true [] cs = .ok (v, rest)) :
    ∃ w, '\x7b' :: cs = w ++ rest ∧ Spells (levels + 1) v w := by
  obtain ⟨g, hg, ⟨rfl, rfl⟩ | ⟨ds, rfl, g', ms, w, hg', rfl, -, hw, rfl⟩⟩ := hfuel.members h
  · exact ⟨_, by simp, .object hg .nil⟩
  · exact ⟨_, by simp [comma], .object (hg.append hg') hw⟩

theorem spells_of_readValue (h : readValue (fuel + 1) levels cs = .ok (v, rest)) :
    ∃ w, skipGaps cs = w ++ rest ∧ Spells (levels - 1) v w := by
  rw [readValue] at h
  split at h
  · contradiction
  · next hskip =>
    split at h
    · contradiction
    · next hread =>
      cases h
      obtain ⟨cs, w, rfl, rfl, hs⟩ := spells_of_readString hread
      exact ⟨_, by simp [hskip], .string hs⟩
  · next hskip =>
    split_ifs at h with hlevels
    obtain ⟨levels, rfl⟩ := Nat.exists_eq_add_of_le' (Nat.lt_of_not_le hlevels)
    rw [hskip]
    exact hfuel.spells_array h
  · next hskip =>
    split_ifs at h with hlevels
    obtain ⟨levels, rfl⟩ := Nat.exists_eq_add_of_le' (Nat.lt_of_not_le hlevels)
    rw [hskip]
    exact hfuel.spells_object h
  · next hskip =>
    obtain ⟨rfl, rfl⟩ := readWord_eq_ok h
    exact ⟨_, hskip, .null⟩
  · next hskip =>
    obtain ⟨rfl, rfl⟩ := readWord_eq_ok h
    exact ⟨_, hskip, .yes⟩
  · next hskip =>
    obtain ⟨rfl, rfl⟩ := readWord_eq_ok h
    exact ⟨_, hskip, .no⟩
  · next hskip =>
    obtain ⟨x, hread, rfl⟩ := number_of_map_eq_ok h
    obtain ⟨w, rfl, hx⟩ := spells_of_readNumber hread
    exact ⟨_, hskip, .number hx⟩
  · next hskip =>
    split_ifs at h with hdigit
    · obtain ⟨x, hread, rfl⟩ := number_of_map_eq_ok h
      obtain ⟨w, hw, hx⟩ := spells_of_readNumber hread
      exact ⟨_, hskip.trans hw, .number hx⟩

end ReadsSpellings

/-- **Nothing is read that is no value.** -/
theorem readsSpellings (fuel : Nat) : ReadsSpellings fuel := by
  -- whatever is read takes a step more than its parts
  induction fuel with
  | zero =>
    constructor
    · intro levels cs v rest h
      simp [readValue] at h
    · intro levels isFirst done cs v rest h
      simp [readItems] at h
    · intro levels isFirst done cs v rest h
      simp [readMembers] at h
    · intro levels done cs v rest h
      simp [readMember] at h
  | succ fuel hfuel =>
    constructor
    · intro levels cs v rest h
      obtain ⟨w, hcs, hw⟩ := hfuel.spells_of_readValue h
      obtain ⟨g, hg, hgcs⟩ := exists_gaps cs
      exact ⟨g, w, hg, hcs ▸ hgcs, hw⟩
    · intro levels isFirst done cs v rest h
      exact hfuel.array_of_readItems h
    · intro levels isFirst done cs v rest h
      exact hfuel.object_of_readMembers h
    · intro levels done cs v rest h
      exact hfuel.members_of_readMember h

/-! ## The texts that are a value -/

/-- **A text is decoded to a value just if it is this value with blanks around it.** -/
theorem ofText_eq_ok_iff {text : List Char} : Value.ofText text = .ok v ↔ SpellsText v text := by
  constructor
  · intro h
    simp only [Value.ofText] at h
    split at h
    · next v' hresult =>
      cases h
      split at hresult
      · contradiction
      · next v' rest hread =>
        split at hresult
        · next hskip =>
          cases hresult
          obtain ⟨g, w, hg, rfl, hw⟩ := (readsSpellings _).value hread
          obtain ⟨g', hg', hrest⟩ := exists_gaps rest
          rw [hskip, List.append_nil] at hrest
          exact .intro hg hw (hrest ▸ hg')
        · contradiction
    · contradiction
  · rintro (@⟨g, w, g', hg, hw, hg'⟩)
    have hends : EndsNumber g' := List.append_nil g' ▸ EndsNumber.gaps hg' (by rintro _ ⟨⟩)
    have hskip : skipGaps g' = [] := List.dropWhile_eq_nil_iff.mpr hg'
    have hread : readValue (3 * (g ++ (w ++ g')).length + 3) nestingLimit (g ++ (w ++ g')) =
        .ok (v, g') :=
      readValue_of_spells hw hg hends (by simp only [List.length_append]; omega)
    simp only [Value.ofText, hread, hskip]

end TestLocator.Json
