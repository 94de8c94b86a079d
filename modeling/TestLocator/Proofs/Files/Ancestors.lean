import TestLocator.Proofs.Files.Below

/-!
# Paths above a path

Going up drops the last step of a path, until only the root or nothing is left. Pieces that are no
steps go with it, so the texts do not tell how far up a path is; the steps do.

* `names_lastPiece`, `names_dropIdle` — what taking off the end of a text does to its steps;
* `components_shorten`, **`parent?_cases`** — one level up;
* `above?`, **`components_of_above?`**, `isSome_above?_iff` — several levels up;
* `getElem?_ancestors` — which paths a bounded walk upwards meets.
-/

namespace TestLocator.Files.Path

/-! ## The last piece -/

theorem pieces_of_notMem {cs : List Char} (h : '/' ∉ cs) : pieces cs = [cs] := by
  have honto : ∀ current, piecesOnto current cs = [current.reverse ++ cs] := by
    induction cs with
    | nil => intro current; rw [piecesOnto, List.append_nil]
    | cons c cs ih =>
      obtain ⟨hc, hcs⟩ := not_or.mp (mt List.mem_cons.mpr h)
      intro current
      rw [piecesOnto, ih hcs, List.reverse_cons, List.append_assoc, List.singleton_append]
      exact fun heq => hc heq.symm
  exact honto []

/-- A text without a slash is one step or none. -/
theorem names_of_notMem {cs : List Char} (h : '/' ∉ cs) : names cs = (componentOf? cs).toList := by
  rw [names, pieces_of_notMem h, List.filterMap_cons, List.filterMap_nil]
  cases componentOf? cs <;> rfl

theorem lastPiece_spec (r : List Char) :
    '/' ∉ (lastPiece r).1 ∧
      (r = (lastPiece r).1 ++ '/' :: (lastPiece r).2 ∨
        r = (lastPiece r).1 ∧ (lastPiece r).2 = []) := by
  fun_induction lastPiece r with
  | case1 => exact ⟨List.not_mem_nil, .inr ⟨rfl, rfl⟩⟩
  | case2 cs => exact ⟨List.not_mem_nil, .inl rfl⟩
  | case3 c cs hc piece rest heq ih =>
    simp only [heq] at ih
    obtain ⟨hslash, hcs⟩ := ih
    refine ⟨fun h => ?_, hcs.imp (fun h => ?_) fun h => ?_⟩
    · rcases List.mem_cons.mp h with h | h
      · exact hc h.symm
      · exact hslash h
    · exact congrArg (c :: ·) h
    · exact ⟨congrArg (c :: ·) h.1, h.2⟩

theorem lastPiece_suffix (r : List Char) : (lastPiece r).2 <:+ r := by
  obtain ⟨-, h | ⟨-, h⟩⟩ := lastPiece_spec r
  · exact ⟨(lastPiece r).1 ++ ['/'], by rw [List.append_assoc, List.singleton_append, ← h]⟩
  · rw [h]
    exact List.nil_suffix

theorem names_lastPiece (r : List Char) :
    names r.reverse =
      names (lastPiece r).2.reverse ++ (componentOf? (lastPiece r).1.reverse).toList := by
  obtain ⟨hslash, hr⟩ := lastPiece_spec r
  have hpiece : names (lastPiece r).1.reverse = (componentOf? (lastPiece r).1.reverse).toList :=
    names_of_notMem (mt List.mem_reverse.mp hslash)
  rcases hr with hr | ⟨hr, hrest⟩
  · have hsplit : r.reverse = (lastPiece r).2.reverse ++ '/' :: (lastPiece r).1.reverse := by
      conv_lhs => rw [hr]
      rw [List.reverse_append, List.reverse_cons, List.append_assoc, List.singleton_append]
    rw [hsplit, names_append, hpiece]
  · rw [hrest, ← hpiece, ← hr]
    rfl

/-! ## Pieces that are no steps -/

theorem dropIdle_suffix (r : List Char) : dropIdle r <:+ r := by
  fun_induction dropIdle r with
  | case1 => exact List.suffix_rfl
  | case2 => exact List.suffix_rfl
  | case3 r _ _ ih => exact ih.trans (lastPiece_suffix r)

theorem names_dropIdle (r : List Char) : names (dropIdle r).reverse = names r.reverse := by
  fun_induction dropIdle r with
  | case1 => rfl
  | case2 => rfl
  | case3 r _ hidle ih =>
    rw [ih, names_lastPiece r, Option.not_isSome_iff_eq_none.mp hidle, Option.toList_none,
      List.append_nil]

theorem isSome_of_dropIdle {r : List Char} (h : dropIdle r ≠ []) :
    (componentOf? (lastPiece (dropIdle r)).1.reverse).isSome := by
  fun_induction dropIdle r with
  | case1 => exact absurd rfl h
  | case2 _ _ hstep => exact hstep
  | case3 _ _ _ ih => exact ih h

theorem componentOf?_ne_root (piece : List Char) : componentOf? piece ≠ some .root := by
  unfold componentOf?
  split_ifs <;> nofun

/-! ## One level up -/

/-- The step that the front of a path is. -/
def leadSteps (lead : List Char) : List Component :=
  match lead with
  | ['/'] => [.root]
  | ['.'] => [.current]
  | _ => []

theorem components_eq (p : Path) :
    p.components = leadSteps (splitLead p.text.toList).1 ++ names (splitLead p.text.toList).2 :=
  rfl

theorem splitLead_prefix {cs lead body rest : List Char} (hcs : splitLead cs = (lead, body))
    (hrest : rest <+: body) (hpoint : rest ≠ ['.']) : splitLead (lead ++ rest) = (lead, rest) := by
  revert hcs
  fun_cases splitLead cs with
  | case1 cs =>
    rintro ⟨⟩
    rfl
  | case2 =>
    rintro ⟨⟩
    rw [List.prefix_nil.mp hrest]
    rfl
  | case3 cs =>
    rintro ⟨⟩
    rcases List.prefix_cons_iff.mp hrest with h | ⟨_, h, -⟩
    all_goals
      rw [h]
      rfl
  | case4 cs hroot hpointed hlead =>
    rintro ⟨⟩
    obtain ⟨_, rfl⟩ := hrest
    rw [List.nil_append, splitLead]
    · rintro ds rfl
      exact hroot _ rfl
    · exact hpoint
    · rintro ds rfl
      exact hlead _ rfl

/-- How many steps a path has beside the root. -/
def depth (p : Path) : Nat := p.components.countP (· ≠ .root)

theorem components_shorten {lead body : List Char} {cs : List Char} {c : Char} {p : Path}
    (hp : splitLead p.text.toList = (lead, body)) (h : dropIdle body.reverse = c :: cs) :
    ∃ step ≠ .root, p.components =
      components ⟨.ofList (lead ++ (dropIdle (lastPiece (c :: cs)).2).reverse)⟩ ++ [step] := by
  have hsuffix := dropIdle_suffix body.reverse
  have hlast := isSome_of_dropIdle (r := body.reverse)
  have hnames := names_dropIdle body.reverse
  rw [h] at hsuffix hlast hnames
  rw [List.reverse_reverse] at hnames
  obtain ⟨step, hstep⟩ := Option.isSome_iff_exists.mp (hlast (List.cons_ne_nil c cs))
  refine ⟨step, fun heq => componentOf?_ne_root _ (hstep.trans (congrArg some heq)), ?_⟩
  have hprefix : (dropIdle (lastPiece (c :: cs)).2).reverse <+: body := by
    rw [← List.reverse_suffix, List.reverse_reverse]
    exact ((dropIdle_suffix _).trans (lastPiece_suffix _)).trans hsuffix
  -- a point would not have been left at the end
  have hpoint : (dropIdle (lastPiece (c :: cs)).2).reverse ≠ ['.'] := by
    intro heq
    have hidle := isSome_of_dropIdle (r := (lastPiece (c :: cs)).2)
    rw [List.reverse_eq_iff.mp heq] at hidle
    exact absurd (hidle nofun) nofun
  rw [components_eq p, hp, components_eq, String.toList_ofList,
    splitLead_prefix hp hprefix hpoint, ← hnames, names_lastPiece (c :: cs), names_dropIdle, hstep,
    Option.toList_some, List.append_assoc]

/-- **One level up**, the last step is gone. -/
theorem parent?_cases (p : Path) :
    (p.parent? = none ∧ p.depth = 0) ∨
      ∃ q, p.parent? = some q ∧ ∃ step ≠ .root, p.components = q.components ++ [step] := by
  obtain ⟨lead, body, hp⟩ : ∃ lead body, splitLead p.text.toList = (lead, body) := ⟨_, _, rfl⟩
  simp only [parent?, hp]
  cases h : dropIdle body.reverse with
  | cons c cs => exact .inr ⟨_, rfl, components_shorten hp h⟩
  | nil =>
    have hnames := names_dropIdle body.reverse
    rw [h, List.reverse_reverse] at hnames
    have hcomponents : p.components = leadSteps lead := by
      rw [components_eq, hp, ← hnames]
      exact List.append_nil _
    by_cases hlead : lead = ['.']
    · -- only the point in front is left
      refine .inr ⟨⟨""⟩, if_pos hlead, .current, nofun, ?_⟩
      rw [hcomponents, hlead]
      rfl
    · refine .inl ⟨if_neg hlead, ?_⟩
      rw [depth, hcomponents]
      unfold leadSteps
      split
      · rfl
      · contradiction
      · rfl

section

variable {p q : Path} {k : Nat}

theorem components_of_parent? (h : p.parent? = some q) :
    ∃ step ≠ .root, p.components = q.components ++ [step] := by
  obtain ⟨hnone, -⟩ | ⟨r, hr, hp⟩ := parent?_cases p
  · cases hnone.symm.trans h
  · cases hr.symm.trans h
    exact hp

theorem depth_of_parent? (h : p.parent? = some q) : p.depth = q.depth + 1 := by
  obtain ⟨step, hstep, hp⟩ := components_of_parent? h
  rw [depth, hp, List.countP_append, List.countP_singleton, if_pos (decide_eq_true hstep), depth]

theorem depth_of_parent?_eq_none (h : p.parent? = none) : p.depth = 0 := by
  obtain ⟨-, hp⟩ | ⟨r, hr, -⟩ := parent?_cases p
  · exact hp
  · cases hr.symm.trans h

/-! ## Several levels up -/

/-- The path that is some levels up, if there is one. -/
def above? : Nat → Path → Option Path
  | 0, p => some p
  | k + 1, p => p.parent?.bind (above? k)

/-- **Some levels up**, as many steps are gone, and the root was none of them. -/
theorem components_of_above? (h : above? k p = some q) :
    ∃ gone : List Component, gone.length = k ∧ .root ∉ gone ∧
      p.components = q.components ++ gone := by
  induction k generalizing p with
  | zero =>
    cases h
    exact ⟨[], rfl, List.not_mem_nil, (List.append_nil _).symm⟩
  | succ k ih =>
    obtain ⟨r, hr, h⟩ := Option.bind_eq_some_iff.mp h
    obtain ⟨c, hc, hp⟩ := components_of_parent? hr
    obtain ⟨gone, hlength, hroot, hgone⟩ := ih h
    refine ⟨gone ++ [c], by rw [List.length_append, hlength]; rfl, fun hmem => ?_, ?_⟩
    · rcases List.mem_append.mp hmem with hmem | hmem
      · exact hroot hmem
      · exact hc (List.mem_singleton.mp hmem).symm
    · rw [hp, hgone, List.append_assoc]

theorem isSome_above?_iff : (above? k p).isSome ↔ k ≤ p.depth := by
  induction k generalizing p with
  | zero => exact iff_of_true rfl (Nat.zero_le _)
  | succ k ih =>
    rw [above?]
    cases hp : p.parent? with
    | none =>
      rw [Option.bind_none, depth_of_parent?_eq_none hp]
      exact iff_of_false nofun (Nat.not_succ_le_zero k)
    | some r => rw [Option.bind_some, ih, depth_of_parent? hp, Nat.add_le_add_iff_right]

/-- A walk upwards that is bounded by `n` meets the paths less than `n` levels up. -/
theorem getElem?_ancestors (n k : Nat) (p : Path) :
    (ancestors n p)[k]? = if k < n then above? k p else none := by
  induction n generalizing k p with
  | zero => rw [ancestors, List.getElem?_nil, if_neg (Nat.not_lt_zero k)]
  | succ n ih =>
    rw [ancestors]
    cases k with
    | zero => rw [List.getElem?_cons_zero, if_pos n.succ_pos, above?]
    | succ k =>
      rw [List.getElem?_cons_succ, above?]
      cases p.parent? with
      | none => rw [List.getElem?_nil, Option.bind_none, ite_self]
      | some r => simp only [ih, Option.bind_some, Nat.add_lt_add_iff_right]

end

end TestLocator.Files.Path
