import TestLocator.Proofs.Batch.Descriptors
import TestLocator.Proofs.Text.Trimming

/-!
# Ways to write a position

A position is a number, or an object with the member `startLine` or `line` among any others, in
single or in double quotes.

* `IsBare`, `Plain`, `Entry` — texts that need no escapes, values that are no arrays and no objects,
  members with the blanks around their parts;
* `objectText`, `spells_objectText` — an object of such members is a value;
* `normalizeDescriptor_eq`, `map_objectText` — single quotes become double ones, and nothing else
  changes;
* `TellsPosition`, `IsPosition` — the ways to write a position;
* **`targetLine_of_isPosition`** — each of them is understood.
-/

namespace TestLocator.Batch

open TestLocator.Json TestLocator.Text

/-! ## Members -/

/-- A text can stand between double quotes as it is. -/
def IsBare (cs : List Char) : Prop := ∀ c ∈ cs, c ≠ '"' ∧ c ≠ '\\' ∧ ¬ c < ' '

instance : DecidablePred IsBare :=
  List.decidableBAll fun c => c ≠ '"' ∧ c ≠ '\\' ∧ ¬ c < ' '

theorem spellsString_of_isBare {cs : List Char} (h : IsBare cs) : SpellsString cs cs := by
  induction cs with
  | nil => exact .nil
  | cons c cs ih =>
    obtain ⟨⟨hquote, hslash, hcontrol⟩, hcs⟩ := List.forall_mem_cons.mp h
    exact .cons (.plain hquote hslash hcontrol) (ih hcs)

/-- A value that holds no others. The number is `-size` or `size`. -/
inductive Plain where
  | integer (isNegative : Bool) (size : Nat)
  | text (cs : List Char)
  | boolean (b : Bool)
  | null

namespace Plain

/-- The value. -/
def value : Plain → Value
  | integer isNegative size => .number (Json.integer (!isNegative) size)
  | text cs => .string (.ofList cs)
  | boolean b => .boolean b
  | null => .null

/-- The value in writing, with any character for the quotes. -/
def written (quote : Char) : Plain → List Char
  | integer isNegative size =>
    if isNegative then '-' :: Nat.toDigits 10 size else Nat.toDigits 10 size
  | text cs => quote :: (cs ++ [quote])
  | boolean true => "true".toList
  | boolean false => "false".toList
  | null => "null".toList

/-- A number fits into 64 bits, and a text needs no escapes. -/
def WellFormed : Plain → Prop
  | integer true size => size ≤ Nat.pow 2 63
  | integer false size => size < Nat.pow 2 64
  | text cs => IsBare cs
  | boolean _ => True
  | null => True

instance : DecidablePred WellFormed
  | integer true _ => inferInstanceAs (Decidable (_ ≤ _))
  | integer false _ => inferInstanceAs (Decidable (_ < _))
  | text cs => inferInstanceAs (Decidable (IsBare cs))
  | boolean _ => instDecidableTrue
  | null => instDecidableTrue

theorem WellFormed.spells {levels : Nat} {p : Plain} (h : p.WellFormed) :
    Spells levels p.value (p.written '"') := by
  cases p with
  | integer isNegative size =>
    have hsize : size < Nat.pow 2 64 := by
      cases isNegative with
      | true => exact Nat.lt_of_le_of_lt h (by decide)
      | false => exact h
    have hx := @spellsNumber_integer (!isNegative) size hsize
    refine .number ?_
    cases isNegative <;> exact hx
  | text cs => exact .string (spellsString_of_isBare h)
  | boolean b => cases b with
    | true => exact .yes
    | false => exact .no
  | null => exact .null

end Plain

/-- A member and the blanks in front of each of its parts and behind it. -/
structure Entry where
  lead : List Char
  key : List Char
  beforeColon : List Char
  afterColon : List Char
  value : Plain
  trail : List Char

namespace Entry

/-- The member. -/
def member (e : Entry) : String × Value := (.ofList e.key, e.value.value)

/-- The member from its name to its value, with any character for the quotes. -/
def core (quote : Char) (e : Entry) : List Char :=
  quote :: (e.key ++ quote :: (e.beforeColon ++ ':' :: (e.afterColon ++ e.value.written quote)))

/-- The member in writing. -/
def written (quote : Char) (e : Entry) : List Char := e.lead ++ (e.core quote ++ e.trail)

/-- There are blanks where there may be some, and the name needs no escapes. -/
structure WellFormed (e : Entry) : Prop where
  lead : AreGaps e.lead
  key : IsBare e.key
  beforeColon : AreGaps e.beforeColon
  afterColon : AreGaps e.afterColon
  value : e.value.WellFormed
  trail : AreGaps e.trail

instance (e : Entry) : Decidable e.WellFormed :=
  decidable_of_iff (AreGaps e.lead ∧ IsBare e.key ∧ AreGaps e.beforeColon ∧ AreGaps e.afterColon ∧
    e.value.WellFormed ∧ AreGaps e.trail)
    ⟨fun ⟨h₁, h₂, h₃, h₄, h₅, h₆⟩ => ⟨h₁, h₂, h₃, h₄, h₅, h₆⟩,
      fun ⟨h₁, h₂, h₃, h₄, h₅, h₆⟩ => ⟨h₁, h₂, h₃, h₄, h₅, h₆⟩⟩

theorem WellFormed.spells {levels : Nat} {e : Entry} (h : e.WellFormed) :
    SpellsMember levels e.member (e.core '"') :=
  .intro (spellsString_of_isBare h.key) h.beforeColon h.afterColon h.value.spells

end Entry

/-- An object of some members. -/
def objectText (quote : Char) (es : List Entry) : List Char :=
  '\x7b' :: ([','].intercalate (es.map (Entry.written quote)) ++ ['\x7d'])

variable {es : List Entry}

theorem exists_spellsMembers {levels : Nat} (hes : ∀ e ∈ es, e.WellFormed) :
    ∃ g w, AreGaps g ∧ [','].intercalate (es.map (Entry.written '"')) = g ++ w ∧
      SpellsMembers levels (es.map Entry.member) w := by
  induction es with
  | nil => exact ⟨[], [], areGaps_nil, rfl, .nil⟩
  | cons e es ih =>
    obtain ⟨he, hrest⟩ := List.forall_mem_cons.mp hes
    cases es with
    | nil =>
      refine ⟨e.lead, e.core '"' ++ e.trail, he.lead, ?_, .last he.spells he.trail⟩
      simp [Entry.written]
    | cons e' es =>
      obtain ⟨g, w, hg, hw, hms⟩ := ih hrest
      refine ⟨e.lead, e.core '"' ++ (e.trail ++ ',' :: (g ++ w)), he.lead, ?_,
        .cons he.spells he.trail hg (by simp) hms⟩
      rw [List.map_cons] at hw ⊢
      rw [List.map_cons, List.intercalate_cons_cons, hw]
      simp [Entry.written]

/-- **An object of such members is a value.** -/
theorem spells_objectText {levels : Nat} (hes : ∀ e ∈ es, e.WellFormed) :
    Spells (levels + 1) (.object (es.map Entry.member)) (objectText '"' es) := by
  obtain ⟨g, w, hg, hw, hms⟩ := exists_spellsMembers hes
  rw [objectText, hw, List.append_assoc]
  exact .object hg hms

/-! ## Single quotes -/

/-- The quote for a quote, and any other character for itself. -/
def toDouble (c : Char) : Char := if c = '\'' then '"' else c

theorem normalizeDescriptor_eq (cs : List Char) :
    normalizeDescriptor cs = (trim cs).map toDouble := rfl

/-- There is no single quote in a text. -/
def IsFree (cs : List Char) : Prop := '\'' ∉ cs

instance : DecidablePred IsFree := fun _ => inferInstanceAs (Decidable (_ ∉ _))

theorem map_toDouble_of_isFree {cs : List Char} (h : IsFree cs) : cs.map toDouble = cs := by
  have hsame : ∀ c ∈ cs, toDouble c = c := by
    intro c hc
    refine if_neg ?_
    rintro rfl
    exact h hc
  rw [List.map_congr_left hsame, List.map_id']

theorem isFree_of_areGaps {g : List Char} (hg : AreGaps g) : IsFree g := fun h =>
  absurd (hg _ h) (by decide)

theorem isFree_toDigits (n : Nat) : IsFree (Nat.toDigits 10 n) := fun h =>
  absurd (areDigits_toDigits n _ h) (by decide)

/-- There is no single quote in a value. -/
def Plain.IsFree : Plain → Prop
  | text cs => Batch.IsFree cs
  | _ => True

instance : DecidablePred Plain.IsFree
  | .text cs => inferInstanceAs (Decidable (Batch.IsFree cs))
  | .integer _ _ => instDecidableTrue
  | .boolean _ => instDecidableTrue
  | .null => instDecidableTrue

theorem Plain.map_written {p : Plain} (hp : p.IsFree) {quote : Char}
    (hquote : toDouble quote = '"') : (p.written quote).map toDouble = p.written '"' := by
  cases p with
  | integer isNegative size =>
    have hdigits := map_toDouble_of_isFree (isFree_toDigits size)
    cases isNegative with
    | true => exact congrArg ('-' :: ·) hdigits
    | false => exact hdigits
  | text cs =>
    show (quote :: (cs ++ [quote])).map toDouble = '"' :: (cs ++ ['"'])
    rw [List.map_cons, List.map_append, List.map_singleton, hquote, map_toDouble_of_isFree hp]
  | boolean b => cases b <;> rfl
  | null => rfl

/-- There is no single quote in the name and in the value of a member. -/
structure Entry.IsFree (e : Entry) : Prop where
  key : Batch.IsFree e.key
  value : e.value.IsFree

instance (e : Entry) : Decidable e.IsFree :=
  decidable_of_iff (Batch.IsFree e.key ∧ e.value.IsFree) ⟨fun ⟨h₁, h₂⟩ => ⟨h₁, h₂⟩,
    fun ⟨h₁, h₂⟩ => ⟨h₁, h₂⟩⟩

theorem Entry.map_written {e : Entry} (he : e.WellFormed) (hfree : e.IsFree) {quote : Char}
    (hquote : toDouble quote = '"') : (e.written quote).map toDouble = e.written '"' := by
  have hblank : ∀ g, AreGaps g → g.map toDouble = g := fun g hg =>
    map_toDouble_of_isFree (isFree_of_areGaps hg)
  simp only [written, core, List.map_append, List.map_cons, hblank _ he.lead,
    hblank _ he.beforeColon, hblank _ he.afterColon, hblank _ he.trail,
    map_toDouble_of_isFree hfree.key, Plain.map_written hfree.value hquote, hquote]
  rfl

theorem map_intercalate {α β : Type} (f : α → β) (sep : List α) (xss : List (List α)) :
    (sep.intercalate xss).map f = (sep.map f).intercalate (xss.map (List.map f)) := by
  induction xss with
  | nil => rfl
  | cons xs xss ih =>
    cases xss with
    | nil => simp
    | cons ys xss =>
      rw [List.map_cons] at ih
      rw [List.intercalate_cons_cons, List.map_cons, List.map_cons, List.intercalate_cons_cons,
        List.map_append, List.map_append, ih]

theorem map_objectText (hes : ∀ e ∈ es, e.WellFormed) (hfree : ∀ e ∈ es, e.IsFree) {quote : Char}
    (hquote : toDouble quote = '"') : (objectText quote es).map toDouble = objectText '"' es := by
  have hmap : es.map (List.map toDouble ∘ Entry.written quote) = es.map (Entry.written '"') :=
    List.map_congr_left fun e he => Entry.map_written (hes e he) (hfree e he) hquote
  simp only [objectText, List.map_cons, List.map_append, map_intercalate, List.map_map, hmap]
  rfl

/-! ## Positions -/

theorem spellsText_of_spells {v : Value} {w : List Char} (h : Spells (nestingLimit - 1) v w) :
    SpellsText v w := by
  have htext : SpellsText v ([] ++ (w ++ [])) := .intro areGaps_nil h areGaps_nil
  rwa [List.nil_append, List.append_nil] at htext

theorem isBlank_of_areGaps {g : List Char} (hg : AreGaps g) : ∀ c ∈ g, isBlank c := by
  intro c hc
  have hgap := hg c hc
  simp only [isGap, decide_eq_true_eq] at hgap
  obtain rfl | rfl | rfl | rfl := hgap <;> decide

theorem trimmed_braces (cs : List Char) : Trimmed ('\x7b' :: (cs ++ ['\x7d'])) := by
  refine ⟨?_, ?_⟩
  · rintro _ ⟨⟩
    decide
  · intro c hc
    rw [← List.cons_append, List.getLast?_concat] at hc
    cases hc
    decide

theorem trimmed_objectText (quote : Char) (es : List Entry) : Trimmed (objectText quote es) :=
  trimmed_braces _

theorem trimmed_toDigits (n : Nat) : Trimmed (Nat.toDigits 10 n) := by
  refine trimmed_of_no_blank fun c hc => ?_
  obtain ⟨hlow, hhigh⟩ := isDigit_iff.mp (areDigits_toDigits n c hc)
  simp only [isBlank, Bool.or_eq_true, Bool.and_eq_true, decide_eq_true_iff, beq_iff_eq]
  omega

/-- Members tell a line: `startLine` does, or `line` does and `startLine` is zero if it is there. -/
inductive TellsPosition (n : Nat) (es : List Entry) : Prop
  | startLine {e : Entry} : e ∈ es → e.key = "startLine".toList → e.value = .integer false n →
    TellsPosition n es
  | line {e : Entry} : e ∈ es → e.key = "line".toList → e.value = .integer false n →
    (∀ e ∈ es, e.key = "startLine".toList → ∃ isNegative, e.value = .integer isNegative 0) →
    TellsPosition n es

/-- A text is the position of a line. -/
inductive IsPosition (n : Nat) : List Char → Prop
  | numeral {before after : List Char} : AreGaps before → AreGaps after →
    IsPosition n (before ++ (Nat.toDigits 10 n ++ after))
  | object {before after : List Char} {quote : Char} {es : List Entry} : AreGaps before →
    AreGaps after → quote = '\'' ∨ quote = '"' → (∀ e ∈ es, e.WellFormed ∧ e.IsFree) →
    (es.map Entry.key).Nodup → TellsPosition n es →
    IsPosition n (before ++ (objectText quote es ++ after))

theorem lastMember_of_nodup (hkeys : (es.map Entry.key).Nodup) {e : Entry} (he : e ∈ es)
    {key : String} (hkey : e.key = key.toList) :
    LastMember key e.value.value (es.map Entry.member) := by
  obtain ⟨before, after, rfl⟩ := List.append_of_mem he
  rw [List.map_append, List.map_cons] at hkeys ⊢
  have hmember : e.member = (key, e.value.value) := by rw [Entry.member, hkey, String.ofList_toList]
  rw [hmember]
  refine .intro fun m hm heq => ?_
  obtain ⟨e', he', rfl⟩ := List.mem_map.mp hm
  have hkey' : e'.key = e.key := by rw [hkey, ← heq, Entry.member, String.toList_ofList]
  have hnot := (List.nodup_cons.mp (List.nodup_append.mp hkeys).2.1).1
  exact hnot (List.mem_map.mpr ⟨e', he', hkey'⟩)

theorem candidate_of_tellsPosition {n : Nat} (hn : 1 ≤ n) (hkeys : (es.map Entry.key).Nodup)
    (h : TellsPosition n es) :
    Candidate (.object (es.map Entry.member)) (.number (.natural n)) := by
  cases h with
  | @startLine e he hkey hvalue =>
    have hlast := lastMember_of_nodup hkeys he hkey
    rw [hvalue] at hlast
    refine .startLine hlast ?_
    rintro ⟨⟩
    contradiction
  | @line e he hkey hvalue hzero =>
    have hlast := lastMember_of_nodup hkeys he hkey
    rw [hvalue] at hlast
    refine .line (fun u hu => ?_) hlast
    obtain ⟨e', he', heq⟩ := List.mem_map.mp hu.mem
    obtain ⟨hkey', rfl⟩ := Prod.mk.inj heq
    obtain ⟨isNegative, hvalue'⟩ := hzero e' he' (by rw [← hkey', String.toList_ofList])
    rw [hvalue']
    cases isNegative with
    | false => exact .natural
    | true => exact .double true 0

/-- **Every position is understood.** -/
theorem targetLine_of_isPosition {raw : String} {n : Nat} (hn : 1 ≤ n) (hfits : n < Nat.pow 2 64)
    (h : IsPosition n raw.toList) : targetLine raw = .ok n := by
  generalize htext : raw.toList = text at h
  cases h with
  | numeral hbefore hafter =>
    have hnumber : Spells (nestingLimit - 1) (.number (.natural n)) (Nat.toDigits 10 n) :=
      .number (spellsNumber_natural_iff.mpr ⟨rfl, hfits⟩)
    refine targetLine_of_candidate ?_ (.number _) hn
    rw [htext, normalizeDescriptor_eq, trim_append (isBlank_of_areGaps hbefore) (trimmed_toDigits n)
      (isBlank_of_areGaps hafter), map_toDouble_of_isFree (isFree_toDigits n)]
    exact spellsText_of_spells hnumber
  | @object before after quote es hbefore hafter hquote hes hkeys htells =>
    have hdouble : toDouble quote = '"' := by
      obtain rfl | rfl := hquote <;> rfl
    refine targetLine_of_candidate ?_ (candidate_of_tellsPosition hn hkeys htells) hn
    rw [htext, normalizeDescriptor_eq, trim_append (isBlank_of_areGaps hbefore)
      (trimmed_objectText quote es) (isBlank_of_areGaps hafter),
      map_objectText (fun e he => (hes e he).1) (fun e he => (hes e he).2) hdouble]
    exact spellsText_of_spells (spells_objectText fun e he => (hes e he).1)

/-- Single quotes, a `startLine` of zero, a further member and blanks. -/
theorem targetLine_of_isPosition_zero :
    IsPosition 4 " \x7b'startLine': 0, 'name' : 'f', 'line': 4\x7d\n".toList ∧
      targetLine " \x7b'startLine': 0, 'name' : 'f', 'line': 4\x7d\n" = .ok 4 := by
  have hposition := @IsPosition.object 4 [' '] ['\n'] '\''
    [⟨[], "startLine".toList, [], [' '], .integer false 0, []⟩,
      ⟨[' '], "name".toList, [' '], [' '], .text ['f'], []⟩,
      ⟨[' '], "line".toList, [], [' '], .integer false 4, []⟩]
    (by decide) (by decide) (.inl rfl) (by decide) (by decide)
    (.line (.tail _ (.tail _ (.head _))) rfl rfl (by simp))
  have h : IsPosition 4 " \x7b'startLine': 0, 'name' : 'f', 'line': 4\x7d\n".toList := hposition
  exact ⟨h, targetLine_of_isPosition (by decide) (by decide) h⟩

end TestLocator.Batch
