import TestLocator.Proofs.Json.Numerals
import TestLocator.Proofs.Json.Strings

/-!
# Ways to write a value

* `AreGaps`, `Spells`, `SpellsItems`, `SpellsMembers`, `SpellsText` — a text is a value, what is in
  an array or an object, a value with blanks around it;
* `StartsValue` — a text begins with no blank and with no end;
* `readItems_first`, `readItems_comma`, `readItems_end` — one step in an array, and likewise in an
  object;
* **`readValue_of_spells`** — what is a value is read as that value.
-/

namespace TestLocator.Json

/-- All characters of a text are blanks of the format. -/
def AreGaps (cs : List Char) : Prop := ∀ c ∈ cs, isGap c

instance : DecidablePred AreGaps := List.decidableBAll fun c => isGap c

mutual

/-- A text is a value in which arrays and objects are at most so many levels deep. -/
inductive Spells : Nat → Value → List Char → Prop
  | null {levels : Nat} : Spells levels .null "null".toList
  | yes {levels : Nat} : Spells levels (.boolean true) "true".toList
  | no {levels : Nat} : Spells levels (.boolean false) "false".toList
  | number {levels : Nat} {x : Number} {w : List Char} : SpellsNumber x w →
    Spells levels (.number x) w
  | string {levels : Nat} {cs w : List Char} : SpellsString cs w →
    Spells levels (.string (.ofList cs)) ('"' :: (w ++ ['"']))
  | array {levels : Nat} {vs : List Value} {g w : List Char} : AreGaps g →
    SpellsItems levels vs w → Spells (levels + 1) (.array vs) ('[' :: (g ++ (w ++ [']'])))
  | object {levels : Nat} {ms : List (String × Value)} {g w : List Char} : AreGaps g →
    SpellsMembers levels ms w →
    Spells (levels + 1) (.object ms) ('\x7b' :: (g ++ (w ++ ['\x7d'])))

/-- A text is the items of an array: there is a comma between two of them, and there may be blanks
behind each and behind each comma. -/
inductive SpellsItems : Nat → List Value → List Char → Prop
  | nil {levels : Nat} : SpellsItems levels [] []
  | last {levels : Nat} {v : Value} {x g : List Char} : Spells levels v x → AreGaps g →
    SpellsItems levels [v] (x ++ g)
  | cons {levels : Nat} {v : Value} {vs : List Value} {x g g' w : List Char} : Spells levels v x →
    AreGaps g → AreGaps g' → vs ≠ [] → SpellsItems levels vs w →
    SpellsItems levels (v :: vs) (x ++ (g ++ ',' :: (g' ++ w)))

/-- A text is a member of an object. -/
inductive SpellsMember : Nat → String × Value → List Char → Prop
  | intro {levels : Nat} {v : Value} {cs w g g' x : List Char} : SpellsString cs w → AreGaps g →
    AreGaps g' → Spells levels v x →
    SpellsMember levels (.ofList cs, v) ('"' :: (w ++ '"' :: (g ++ ':' :: (g' ++ x))))

/-- A text is the members of an object, with commas and blanks as between items. -/
inductive SpellsMembers : Nat → List (String × Value) → List Char → Prop
  | nil {levels : Nat} : SpellsMembers levels [] []
  | last {levels : Nat} {m : String × Value} {x g : List Char} : SpellsMember levels m x →
    AreGaps g → SpellsMembers levels [m] (x ++ g)
  | cons {levels : Nat} {m : String × Value} {ms : List (String × Value)} {x g g' w : List Char} :
    SpellsMember levels m x → AreGaps g → AreGaps g' → ms ≠ [] → SpellsMembers levels ms w →
    SpellsMembers levels (m :: ms) (x ++ (g ++ ',' :: (g' ++ w)))

end

/-- A text is a value, with blanks around it. Arrays and objects may be nested below the limit. -/
inductive SpellsText (v : Value) : List Char → Prop
  | intro {g w g' : List Char} : AreGaps g → Spells (nestingLimit - 1) v w → AreGaps g' →
    SpellsText v (g ++ (w ++ g'))

variable {levels fuel : Nat} {v : Value} {vs : List Value} {m : String × Value}
  {ms : List (String × Value)} {cs w g g' rest : List Char}

/-! ## Blanks -/

theorem areGaps_nil : AreGaps [] := List.forall_mem_nil _

theorem skipGaps_append (hg : AreGaps g) (hcs : ∀ c ∈ cs.head?, ¬ isGap c) :
    skipGaps (g ++ cs) = cs :=
  Text.dropWhile_append hg hcs

theorem endsNumber_cons {c : Char} (hc : isDigit c = false ∧ c ≠ '.' ∧ c ≠ 'e' ∧ c ≠ 'E') :
    EndsNumber (c :: cs) := by
  rintro _ ⟨⟩
  exact hc

theorem EndsNumber.gaps (hg : AreGaps g) (hcs : EndsNumber cs) : EndsNumber (g ++ cs) := by
  cases g with
  | nil => exact hcs
  | cons c g =>
    rintro _ ⟨⟩
    have hc := hg c List.mem_cons_self
    simp only [isGap, decide_eq_true_eq] at hc
    obtain rfl | rfl | rfl | rfl := hc <;> decide

/-- A text begins with a character that is no blank and ends no array and no object. -/
def StartsValue (cs : List Char) : Prop :=
  ∃ c ∈ cs.head?, isGap c = false ∧ c ≠ ']' ∧ c ≠ '\x7d'

theorem StartsValue.append (h : StartsValue cs) (rest : List Char) : StartsValue (cs ++ rest) := by
  obtain ⟨c, hc, hstart⟩ := h
  exact ⟨c, List.mem_head?_append_of_mem_head? hc, hstart⟩

theorem StartsValue.length_pos (h : StartsValue cs) : 0 < cs.length := by
  obtain ⟨c, hc, -⟩ := h
  exact List.length_pos_of_mem (List.mem_of_mem_head? hc)

theorem skipGaps_startsValue (hg : AreGaps g) (hcs : StartsValue cs) : skipGaps (g ++ cs) = cs := by
  obtain ⟨c, hc, hgap, -⟩ := hcs
  refine skipGaps_append hg fun c' hc' => ?_
  rw [Option.mem_unique hc' hc]
  exact Bool.eq_false_iff.mp hgap

/-- A digit is no blank, and it ends nothing. -/
theorem startsValue_of_isDigit {c : Char} (hc : isDigit c) : StartsValue (c :: cs) := by
  have hspace : c ≠ ' ' := ne_of_isDigit hc rfl
  have hfeed : c ≠ '\n' := ne_of_isDigit hc rfl
  have htab : c ≠ '\t' := ne_of_isDigit hc rfl
  have hreturn : c ≠ '\r' := ne_of_isDigit hc rfl
  have hgap : isGap c = false := by simp [isGap, hspace, hfeed, htab, hreturn]
  exact ⟨c, rfl, hgap, ne_of_isDigit hc rfl, ne_of_isDigit hc rfl⟩

theorem SpellsNumber.startsValue {x : Number} (h : SpellsNumber x w) : StartsValue w := by
  obtain ⟨c, cs, rfl, rfl | hc⟩ := exists_cons_of_spellsNumber h
  · exact ⟨_, rfl, by decide⟩
  · exact startsValue_of_isDigit hc

theorem Spells.startsValue (h : Spells levels v w) : StartsValue w := by
  cases h with
  | number hx => exact hx.startsValue
  | null => exact ⟨_, rfl, by decide⟩
  | yes => exact ⟨_, rfl, by decide⟩
  | no => exact ⟨_, rfl, by decide⟩
  | string _ => exact ⟨_, rfl, by decide⟩
  | array _ _ => exact ⟨_, rfl, by decide⟩
  | object _ _ => exact ⟨_, rfl, by decide⟩

theorem SpellsItems.startsValue (h : SpellsItems levels vs w) (hne : vs ≠ []) : StartsValue w := by
  cases h with
  | nil => contradiction
  | last hx _ => exact hx.startsValue.append _
  | cons hx _ _ _ _ => exact hx.startsValue.append _

theorem SpellsMembers.mem_head? (h : SpellsMembers levels ms w) (hne : ms ≠ []) :
    '"' ∈ w.head? := by
  cases h with
  | nil => contradiction
  | last hm _ => cases hm; rfl
  | cons hm _ _ _ _ => cases hm; rfl

theorem SpellsText.ne_nil (h : SpellsText v cs) : cs ≠ [] := by
  obtain ⟨_, hw, _⟩ := h
  simp [List.ne_nil_of_length_pos hw.startsValue.length_pos]

/-! ## Reading an array -/

/-- An item is read, and those behind it. -/
def readItem (fuel levels : Nat) (done : List Value) (cs : List Char) : Reading Value :=
  match readValue fuel levels cs with
  | .error e => .error e
  | .ok (v, rest) => readItems fuel levels false (v :: done) rest

theorem readItem_of_readValue (h : readValue fuel levels cs = .ok (v, rest)) (done : List Value) :
    readItem fuel levels done cs = readItems fuel levels false (v :: done) rest := by
  rw [readItem, h]

theorem readItems_end (hg : AreGaps g) (isFirst : Bool) (done : List Value) :
    readItems (fuel + 1) levels isFirst done (g ++ ']' :: rest) =
      .ok (.array done.reverse, rest) := by
  rw [readItems, skipGaps_append hg (by rintro _ ⟨⟩; decide)]
  rfl

theorem readItems_first (hg : AreGaps g) (hcs : StartsValue cs) (done : List Value) :
    readItems (fuel + 1) levels true done (g ++ cs) = readItem fuel levels done cs := by
  rw [readItems, skipGaps_startsValue hg hcs]
  obtain ⟨c, hc, -, hend, -⟩ := hcs
  split
  · contradiction
  · exact absurd (Option.some.inj hc).symm hend
  · rw [if_neg (by simp), if_pos rfl]
    rfl

theorem readItems_comma (hg : AreGaps g) (hg' : AreGaps g') (hcs : StartsValue cs)
    (done : List Value) :
    readItems (fuel + 1) levels false done (g ++ ',' :: (g' ++ cs)) =
      readItem fuel levels done cs := by
  rw [readItems, skipGaps_append hg (by rintro _ ⟨⟩; decide)]
  split
  · contradiction
  · next h => exact absurd (List.cons.inj h).1 (by decide)
  · next h =>
    cases h
    rw [if_pos ⟨rfl, rfl⟩, skipGaps_startsValue hg' hcs]
    obtain ⟨c, hc, -, hend, -⟩ := hcs
    split
    · contradiction
    · exact absurd (Option.some.inj hc).symm hend
    · rfl

/-! ## Reading an object -/

theorem readColon_append (hg : AreGaps g) : readColon (g ++ ':' :: rest) = .ok rest := by
  rw [readColon, skipGaps_append hg (by rintro _ ⟨⟩; decide)]
  rfl

theorem readMembers_end (hg : AreGaps g) (isFirst : Bool) (done : List (String × Value)) :
    readMembers (fuel + 1) levels isFirst done (g ++ '\x7d' :: rest) =
      .ok (.object done.reverse, rest) := by
  rw [readMembers, skipGaps_append hg (by rintro _ ⟨⟩; decide)]
  rfl

theorem readMembers_first (hg : AreGaps g) (hcs : '"' ∈ cs.head?) (done : List (String × Value)) :
    readMembers (fuel + 1) levels true done (g ++ cs) = readMember fuel levels done cs := by
  rw [List.eq_cons_of_mem_head? hcs, readMembers, skipGaps_append hg (by rintro _ ⟨⟩; decide)]
  rfl

theorem readMembers_comma (hg : AreGaps g) (hg' : AreGaps g') (hcs : '"' ∈ cs.head?)
    (done : List (String × Value)) :
    readMembers (fuel + 1) levels false done (g ++ ',' :: (g' ++ cs)) =
      readMember fuel levels done cs := by
  rw [List.eq_cons_of_mem_head? hcs, readMembers, skipGaps_append hg (by rintro _ ⟨⟩; decide)]
  split
  · contradiction
  · next h => exact absurd (List.cons.inj h).1 (by decide)
  · next h =>
    cases h
    rw [if_pos ⟨rfl, rfl⟩, skipGaps_append hg' (by rintro _ ⟨⟩; decide)]
    rfl

theorem readMember_of_readValue (hs : SpellsString cs w) (hg : AreGaps g) {x : List Char}
    (hx : readValue fuel levels x = .ok (v, rest)) (done : List (String × Value)) :
    readMember (fuel + 1) levels done ('"' :: (w ++ '"' :: (g ++ ':' :: x))) =
      readMembers fuel levels false ((.ofList cs, v) :: done) rest := by
  simp only [readMember, readString_of_spells hs, readColon_append hg, hx, List.reverse_nil,
    List.nil_append]

/-! ## Reading a value -/

/-- The values that are words. -/
def wordValues : List (Value × List Char) :=
  [(.null, "null".toList), (.boolean true, "true".toList), (.boolean false, "false".toList)]

theorem readWord_append (v : Value) (ws cs : List Char) :
    readWord v ws (ws ++ cs) = .ok (v, cs) := by
  induction ws with
  | nil => rfl
  | cons w ws ih => rw [List.cons_append, readWord, if_pos rfl, ih]

section

variable (hg : AreGaps g)
include hg

theorem readValue_word (hw : (v, w) ∈ wordValues) :
    readValue (fuel + 1) levels (g ++ (w ++ rest)) = .ok (v, rest) := by
  simp only [wordValues, List.mem_cons, Prod.mk.injEq, List.not_mem_nil, or_false] at hw
  obtain ⟨rfl, rfl⟩ | ⟨rfl, rfl⟩ | ⟨rfl, rfl⟩ := hw
  all_goals
    rw [readValue, skipGaps_append hg (by rintro _ ⟨⟩; decide)]
    exact readWord_append _ _ rest

theorem readValue_number {x : Number} (hx : SpellsNumber x w) (hrest : EndsNumber rest) :
    readValue (fuel + 1) levels (g ++ (w ++ rest)) = .ok (.number x, rest) := by
  rw [readValue, skipGaps_startsValue hg (hx.startsValue.append rest)]
  obtain ⟨u, rfl, hread⟩ | ⟨c, u, rfl, hc, hread⟩ := readNumber_of_spells hx hrest
  · show (readNumber false (u ++ rest)).map _ = _
    rw [hread]
    rfl
  · have hne : ∀ d, isDigit d = false → c ≠ d := fun d hd => ne_of_isDigit hc hd
    rw [List.cons_append] at hread ⊢
    -- no other value begins with a digit
    split
    · contradiction
    all_goals try (next h => exact absurd (List.cons.inj h).1 (hne _ rfl))
    · next h =>
      cases h
      rw [if_pos hc, hread]
      rfl

theorem readValue_string (hs : SpellsString cs w) :
    readValue (fuel + 1) levels (g ++ ('"' :: (w ++ '"' :: rest))) =
      .ok (.string (.ofList cs), rest) := by
  rw [readValue, skipGaps_append hg (by rintro _ ⟨⟩; decide)]
  simp only [readString_of_spells hs]
  rfl

theorem readValue_array :
    readValue (fuel + 1) (levels + 2) (g ++ '[' :: cs) =
      readItems fuel (levels + 1) true [] cs := by
  rw [readValue, skipGaps_append hg (by rintro _ ⟨⟩; decide)]
  exact if_neg (by omega)

theorem readValue_object :
    readValue (fuel + 1) (levels + 2) (g ++ '\x7b' :: cs) =
      readMembers fuel (levels + 1) true [] cs := by
  rw [readValue, skipGaps_append hg (by rintro _ ⟨⟩; decide)]
  exact if_neg (by omega)

end

/-! ## What is a value is read

Three steps are enough for every character. -/

mutual

/-- **What is a value is read as that value.** -/
theorem readValue_of_spells {levels : Nat} {v : Value} {w : List Char} (h : Spells levels v w)
    {fuel : Nat} {g rest : List Char} (hg : AreGaps g) (hrest : EndsNumber rest)
    (hfuel : 3 * w.length < fuel) :
    readValue fuel (levels + 1) (g ++ (w ++ rest)) = .ok (v, rest) := by
  obtain ⟨fuel, rfl⟩ := Nat.exists_eq_add_of_le' (Nat.one_le_of_lt hfuel)
  match h with
  | .null | .yes | .no => exact readValue_word hg (by simp [wordValues])
  | .number hx => exact readValue_number hg hx hrest
  | .string hs =>
    rw [List.cons_append, List.append_assoc]
    exact readValue_string hg hs
  | @Spells.array _ vs _ _ hgap hvs =>
    simp only [List.length_cons, List.length_append] at hfuel
    obtain ⟨fuel, rfl⟩ := Nat.exists_eq_add_of_le' (show 1 ≤ fuel by omega)
    simp only [List.cons_append, List.append_assoc, List.nil_append, readValue_array hg]
    by_cases hne : vs = []
    · subst hne
      cases hvs
      exact readItems_end hgap true []
    · rw [readItems_first hgap ((hvs.startsValue hne).append _)]
      exact readItem_of_spells hvs hne (by omega) []
  | @Spells.object _ ms _ _ hgap hms =>
    simp only [List.length_cons, List.length_append] at hfuel
    obtain ⟨fuel, rfl⟩ := Nat.exists_eq_add_of_le' (show 1 ≤ fuel by omega)
    simp only [List.cons_append, List.append_assoc, List.nil_append, readValue_object hg]
    by_cases hne : ms = []
    · subst hne
      cases hms
      exact readMembers_end hgap true []
    · rw [readMembers_first hgap (List.mem_head?_append_of_mem_head? (hms.mem_head? hne))]
      exact readMember_of_spells hms hne (by omega) []
termination_by structural h

theorem readItem_of_spells {levels : Nat} {vs : List Value} {w : List Char}
    (h : SpellsItems levels vs w) {fuel : Nat} {rest : List Char} (hne : vs ≠ [])
    (hfuel : 3 * w.length < fuel) (done : List Value) :
    readItem fuel (levels + 1) done (w ++ ']' :: rest) =
      .ok (.array (done.reverse ++ vs), rest) := by
  obtain ⟨fuel, rfl⟩ := Nat.exists_eq_add_of_le' (Nat.one_le_of_lt hfuel)
  match h with
  | .nil => exact absurd rfl hne
  | @SpellsItems.last _ v x gap hx hgap =>
    simp only [List.length_append] at hfuel
    have hends : EndsNumber (gap ++ ']' :: rest) := .gaps hgap (endsNumber_cons (by decide))
    have hread : readValue (fuel + 1) (levels + 1) (x ++ (gap ++ ']' :: rest)) = .ok (v, _) :=
      readValue_of_spells hx (g := []) areGaps_nil hends (by omega)
    rw [List.append_assoc, readItem_of_readValue hread, readItems_end hgap, List.reverse_cons]
  | @SpellsItems.cons _ v vs x gap gap' w hx hgap hgap' hvs hw =>
    simp only [List.length_append, List.length_cons] at hfuel
    obtain ⟨fuel, rfl⟩ := Nat.exists_eq_add_of_le' (show 1 ≤ fuel by omega)
    have hends : EndsNumber (gap ++ ',' :: (gap' ++ (w ++ ']' :: rest))) :=
      .gaps hgap (endsNumber_cons (by decide))
    have hread : readValue (fuel + 2) (levels + 1) (x ++ _) = .ok (v, _) :=
      readValue_of_spells hx (g := []) areGaps_nil hends (by omega)
    have hmore : readItem (fuel + 1) (levels + 1) (v :: done) (w ++ ']' :: rest) = _ :=
      readItem_of_spells hw hvs (by omega) (v :: done)
    simp only [List.append_assoc, List.cons_append]
    rw [readItem_of_readValue hread, readItems_comma hgap hgap' ((hw.startsValue hvs).append _),
      hmore, List.reverse_cons, List.append_assoc, List.singleton_append]
termination_by structural h

theorem readMember_of_spells {levels : Nat} {ms : List (String × Value)} {w : List Char}
    (h : SpellsMembers levels ms w) {fuel : Nat} {rest : List Char} (hne : ms ≠ [])
    (hfuel : 3 * w.length < fuel) (done : List (String × Value)) :
    readMember fuel (levels + 1) done (w ++ '\x7d' :: rest) =
      .ok (.object (done.reverse ++ ms), rest) := by
  obtain ⟨fuel, rfl⟩ := Nat.exists_eq_add_of_le' (Nat.one_le_of_lt hfuel)
  match h with
  | .nil => exact absurd rfl hne
  | @SpellsMembers.last _ _ _ gap (@SpellsMember.intro _ v cs u _ _ x hs hg hg' hx) hgap =>
    simp only [List.length_append, List.length_cons] at hfuel
    obtain ⟨fuel, rfl⟩ := Nat.exists_eq_add_of_le' (show 1 ≤ fuel by omega)
    have hends : EndsNumber (gap ++ '\x7d' :: rest) := .gaps hgap (endsNumber_cons (by decide))
    have hread : readValue (fuel + 1) (levels + 1) (_ ++ (x ++ _)) = .ok (v, _) :=
      readValue_of_spells hx hg' hends (by omega)
    simp only [List.append_assoc, List.cons_append]
    rw [readMember_of_readValue hs hg hread, readMembers_end hgap, List.reverse_cons]
  | @SpellsMembers.cons _ _ ms _ gap gap' w (@SpellsMember.intro _ v cs u _ _ x hs hg hg' hx) hgap
      hgap' hms hw =>
    simp only [List.length_append, List.length_cons] at hfuel
    obtain ⟨fuel, rfl⟩ := Nat.exists_eq_add_of_le' (show 2 ≤ fuel by omega)
    have hends : EndsNumber (gap ++ ',' :: (gap' ++ (w ++ '\x7d' :: rest))) :=
      .gaps hgap (endsNumber_cons (by decide))
    have hread : readValue (fuel + 2) (levels + 1) (_ ++ (x ++ _)) = .ok (v, _) :=
      readValue_of_spells hx hg' hends (by omega)
    have hmore : readMember (fuel + 1) (levels + 1) (_ :: done) (w ++ '\x7d' :: rest) = _ :=
      readMember_of_spells hw hms (by omega) ((.ofList cs, v) :: done)
    simp only [List.append_assoc, List.cons_append]
    rw [readMember_of_readValue hs hg hread,
      readMembers_comma hgap hgap' (List.mem_head?_append_of_mem_head? (hw.mem_head? hms)), hmore,
      List.reverse_cons, List.append_assoc, List.singleton_append]
termination_by structural h

end

end TestLocator.Json
