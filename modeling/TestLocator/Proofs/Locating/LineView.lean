import TestLocator.Proofs.Locating.LineByLine
import TestLocator.Proofs.Locating.Slices
import TestLocator.Proofs.Text.Stretch

/-!
# The line view of a document

The lines of a document are counted from `1`, a slice takes in both its ends, and an empty last line
does not count. The lines and the slices fit together all the same, and all the lines together are
the text that is parsed.

* `Document.isSome_line?`, `Document.isSome_slice?` — which lines and slices there are;
* `Document.map_some_linesFrom`, `Document.slice?_append` — slices as lines, and one after the other;
* `joinLines_dropBlankEnd` — the lines that count, as a text;
* `breaks_notMem_of_line?`, `splitOn_of_slice?`, `slice?_whole` — what this says of the document of a
  text;
* **`ofText_line_view`** — the line view as a whole.
-/

namespace TestLocator.Locating

open TestLocator.Files TestLocator.Text

/-! ## Lines and slices -/

theorem map_some_filterMap {α β : Type} {f : α → Option β} {xs : List α}
    (h : ∀ x ∈ xs, (f x).isSome) : (xs.filterMap f).map some = xs.map f := by
  induction xs with
  | nil => rfl
  | cons x xs ih =>
    obtain ⟨hx, hxs⟩ := List.forall_mem_cons.mp h
    obtain ⟨y, hy⟩ := Option.isSome_iff_exists.mp hx
    rw [List.filterMap_cons_some hy, List.map_cons, List.map_cons, ih hxs, hy]

namespace Document

variable (d : Document) {a b c n : Nat}

theorem isSome_line? : (d.line? n).isSome ↔ 1 ≤ n ∧ n ≤ d.lineCount := by
  unfold line? lineCount
  split_ifs with hn
  · subst hn
    exact iff_of_false nofun fun h => Nat.not_succ_le_zero 0 h.1
  · rw [isSome_getElem?]
    omega

theorem isSome_slice? : (d.slice? a b).isSome ↔ 1 ≤ a ∧ a ≤ b ∧ b ≤ d.lineCount := by
  rw [slice?_eq]
  split_ifs with h
  · exact iff_of_true rfl h
  · exact iff_of_false nofun h

theorem slice?_of_le (ha : 1 ≤ a) (hab : a ≤ b) (hb : b ≤ d.lineCount) :
    d.slice? a b = some ("\n".intercalate (d.linesFrom a b)) := by
  rw [slice?_eq, if_pos ⟨ha, hab, hb⟩]

/-- Between its bounds a document lacks no line. -/
theorem map_some_linesFrom (ha : 1 ≤ a) (hb : b ≤ d.lineCount) :
    (d.linesFrom a b).map some = (List.range' a (b + 1 - a)).map d.line? := by
  refine map_some_filterMap fun n hn => d.isSome_line?.mpr ?_
  obtain ⟨hfirst, hlast⟩ := List.mem_range'_1.mp hn
  omega

theorem linesFrom_append (hab : a ≤ b + 1) (hbc : b ≤ c) :
    d.linesFrom a b ++ d.linesFrom (b + 1) c = d.linesFrom a c := by
  have hrange := @List.range'_append_1 a (b + 1 - a) (c + 1 - (b + 1))
  rw [Nat.add_sub_cancel' hab] at hrange
  rw [linesFrom, linesFrom, linesFrom, ← List.filterMap_append, hrange]
  congr 2
  omega

theorem linesFrom_ne_nil (ha : 1 ≤ a) (hab : a ≤ b) (hb : b ≤ d.lineCount) :
    d.linesFrom a b ≠ [] := by
  intro hnil
  have hlength := congrArg List.length (d.map_some_linesFrom ha hb)
  rw [hnil, List.map_nil, List.length_nil, List.length_map, List.length_range'] at hlength
  omega

/-- **Two slices**, the one behind the other, make one. -/
theorem slice?_append (ha : 1 ≤ a) (hab : a ≤ b) (hbc : b < c) (hc : c ≤ d.lineCount) :
    ∃ s t, d.slice? a b = some s ∧ d.slice? (b + 1) c = some t ∧
      d.slice? a c = some (s ++ "\n" ++ t) := by
  have hb : b ≤ d.lineCount := Nat.le_trans (Nat.le_of_lt hbc) hc
  refine ⟨_, _, d.slice?_of_le ha hab hb, d.slice?_of_le b.succ_pos hbc hc, ?_⟩
  rw [d.slice?_of_le ha (Nat.le_trans hab (Nat.le_of_lt hbc)) hc,
    ← d.linesFrom_append (Nat.le_succ_of_le hab) (Nat.le_of_lt hbc),
    String.intercalate_append_of_ne_nil (d.linesFrom_ne_nil ha hab hb)
      (d.linesFrom_ne_nil b.succ_pos hbc hc)]

end Document

end TestLocator.Locating

/-! ## The lines that count -/

namespace TestLocator.Text

variable {cs l : List Char} {c : Char}

theorem mem_of_mem_splitOn (hl : l ∈ cs.splitOn '\n') (hc : c ∈ l) : c ∈ cs := by
  rw [← joinLines_splitOn cs]
  obtain ⟨m, ms, hsplit⟩ := List.exists_cons_of_ne_nil (List.splitOn_ne_nil '\n' cs)
  rw [hsplit] at hl ⊢
  rw [joinLines_cons_flatMap, List.mem_append, List.mem_flatMap]
  rcases List.mem_cons.mp hl with rfl | hl
  · exact .inl hc
  · exact .inr ⟨l, hl, List.mem_cons_of_mem _ hc⟩

theorem joinLines_concat {ls : List (List Char)} (hne : ls ≠ []) (l : List Char) :
    joinLines (ls ++ [l]) = joinLines ls ++ '\n' :: l := by
  obtain ⟨m, ms, rfl⟩ := List.exists_cons_of_ne_nil hne
  rw [List.cons_append, joinLines_cons_flatMap, joinLines_cons_flatMap, List.flatMap_append,
    List.append_assoc]
  simp

theorem getLast?_splitOn_eq_nil_iff :
    (cs.splitOn '\n').getLast? = some [] ↔ cs = [] ∨ cs.getLast? = some '\n' := by
  obtain ⟨init, last, hsplit, -, -⟩ := exists_splitOn_concat '\n' cs
  rw [hsplit, List.getLast?_concat, Option.some.injEq]
  constructor
  · rintro rfl
    by_contra h
    obtain ⟨hne, hend⟩ := not_or.mp h
    exact last_ne_nil hne hend hsplit rfl
  · rintro (rfl | hend)
    · have hinj : [] ++ [[]] = init ++ [last] := (List.splitOn_nil '\n').symm.trans hsplit
      exact (concat_inj hinj).2.symm
    · obtain ⟨front, rfl⟩ := List.getLast?_eq_some_iff.mp hend
      obtain ⟨init', last', hfront, -, -⟩ := exists_splitOn_concat '\n' front
      have hfeed : ['\n'].splitOn '\n' = [[], []] := by decide
      rw [splitOn_append hfront hfeed, List.append_cons] at hsplit
      exact (concat_inj hsplit).2.symm

/-- **The lines that count** are all of a text but one line feed at its end. -/
theorem joinLines_dropBlankEnd (hne : dropBlankEnd (cs.splitOn '\n') ≠ []) :
    cs = joinLines (dropBlankEnd (cs.splitOn '\n')) ++ ['\n'] ∨
      cs = joinLines (dropBlankEnd (cs.splitOn '\n')) ∧ cs.getLast? ≠ some '\n' := by
  unfold dropBlankEnd at hne ⊢
  split_ifs at hne ⊢ with hlast
  · obtain ⟨init, hsplit⟩ := List.getLast?_eq_some_iff.mp hlast
    rw [hsplit, List.dropLast_concat] at hne ⊢
    refine .inl ?_
    rw [← joinLines_concat hne, ← hsplit, joinLines_splitOn]
  · refine .inr ⟨(joinLines_splitOn cs).symm, fun hend => ?_⟩
    exact hlast (getLast?_splitOn_eq_nil_iff.mpr (.inr hend))

theorem dropBlankEnd_splitOn_eq_nil_iff : dropBlankEnd (cs.splitOn '\n') = [] ↔ cs = [] := by
  constructor
  · intro hnil
    unfold dropBlankEnd at hnil
    split_ifs at hnil with hlast
    · obtain ⟨init, hsplit⟩ := List.getLast?_eq_some_iff.mp hlast
      rw [hsplit, List.dropLast_concat] at hnil
      rw [← joinLines_splitOn cs, hsplit, hnil]
      rfl
    · exact absurd hnil (List.splitOn_ne_nil _ _)
  · rintro rfl
    rfl

end TestLocator.Text

/-! ## The document of a text -/

namespace TestLocator.Locating

open TestLocator.Files TestLocator.Text

section

variable {path : Path} {text marker : String} {a b n : Nat} {s l : String}

theorem lines_eq_dropBlankEnd : (Document.ofText path text marker).lines =
    (dropBlankEnd ((Document.ofText path text marker).text.toList.splitOn '\n')).map
      String.ofList := by
  rw [splitOn_text_ofText, lines_ofText]

theorem breaks_notMem_of_line? (h : (Document.ofText path text marker).line? n = some l) :
    '\n' ∉ l.toList ∧ '\r' ∉ l.toList := by
  have hmem : l ∈ (Document.ofText path text marker).lines := by
    unfold Document.line? at h
    split_ifs at h
    exact List.mem_of_getElem? h
  rw [lines_eq_dropBlankEnd] at hmem
  obtain ⟨cs, hcs, rfl⟩ := List.mem_map.mp hmem
  have hline := (dropBlankEnd_isPrefix _).subset hcs
  rw [String.toList_ofList]
  exact ⟨notMem_of_mem_splitOn hline, fun hreturn =>
    return_notMem_text_ofText path text marker (mem_of_mem_splitOn hline hreturn)⟩

/-- **A slice cut at the line feeds** is the lines from the one to the other. -/
theorem splitOn_of_slice? (h : (Document.ofText path text marker).slice? a b = some s) :
    (s.toList.splitOn '\n').map (fun l => some (String.ofList l)) =
      (List.range' a (b + 1 - a)).map (Document.ofText path text marker).line? := by
  obtain ⟨ha, hab, hb⟩ := (Document.isSome_slice? _).mp (Option.isSome_of_eq_some h)
  rw [Document.slice?_of_le _ ha hab hb] at h
  have hlines := linesFrom_ofText ha hab hb
  have hs := toList_intercalate_linesFrom ha hab hb
  rw [Option.some.inj h] at hs
  have hne := Document.linesFrom_ne_nil _ ha hab hb
  rw [hlines] at hne
  have hbreak : ∀ l ∈ ((cleanLines text marker).drop (a - 1)).take (b - a + 1), '\n' ∉ l :=
    fun l hl => notMem_of_mem_splitOn (List.mem_of_mem_drop (List.mem_of_mem_take hl))
  rw [hs, joinLines, List.splitOn_intercalate '\n' hbreak (mt (congrArg _) hne),
    ← Document.map_some_linesFrom _ ha hb, hlines, List.map_map]
  rfl

theorem lineCount_eq_zero_iff : (Document.ofText path text marker).lineCount = 0 ↔
    (Document.ofText path text marker).text = "" := by
  rw [Document.lineCount, lines_eq_dropBlankEnd, List.length_map, List.length_eq_zero_iff,
    dropBlankEnd_splitOn_eq_nil_iff, String.toList_eq_nil_iff]

theorem slice?_whole (h : 0 < (Document.ofText path text marker).lineCount) :
    ∃ s, (Document.ofText path text marker).slice? 1 (Document.ofText path text marker).lineCount =
        some s ∧
      ((Document.ofText path text marker).text = s ++ "\n" ∨
        (Document.ofText path text marker).text = s ∧ s.toList.getLast? ≠ some '\n') := by
  obtain ⟨d, hd⟩ : ∃ d, Document.ofText path text marker = d := ⟨_, rfl⟩
  have hlines : d.lines = (dropBlankEnd (d.text.toList.splitOn '\n')).map String.ofList :=
    hd ▸ lines_eq_dropBlankEnd
  rw [hd] at h ⊢
  have hall : d.linesFrom 1 d.lineCount = d.lines := by
    rw [d.linesFrom_eq (Nat.le_refl 1) h (Nat.le_refl _), Nat.sub_self, List.drop_zero,
      Nat.sub_add_cancel h]
    exact List.take_length
  have hs : ("\n".intercalate d.lines).toList =
      joinLines (dropBlankEnd (d.text.toList.splitOn '\n')) := by
    rw [hlines, String.toList_intercalate, List.map_map]
    simp [joinLines, Function.comp_def]
  refine ⟨_, hall ▸ d.slice?_of_le (Nat.le_refl 1) h (Nat.le_refl _), ?_⟩
  have hne : dropBlankEnd (d.text.toList.splitOn '\n') ≠ [] := by
    intro hnil
    rw [Document.lineCount, hlines, hnil] at h
    exact absurd h (Nat.lt_irrefl 0)
  rw [← String.toList_inj, ← String.toList_inj, String.toList_append, hs]
  obtain htext | ⟨htext, hend⟩ := joinLines_dropBlankEnd hne
  · exact .inl htext
  · refine .inr ⟨htext, ?_⟩
    rwa [← htext]

end

/-- **The line view of a document**, whatever text it is made of. -/
theorem ofText_line_view (path : Path) (text marker : String) :
    (∀ n, ((Document.ofText path text marker).line? n).isSome ↔
      1 ≤ n ∧ n ≤ (Document.ofText path text marker).lineCount) ∧
    (∀ n l, (Document.ofText path text marker).line? n = some l →
      '\n' ∉ l.toList ∧ '\r' ∉ l.toList) ∧
    (∀ a b, ((Document.ofText path text marker).slice? a b).isSome ↔
      1 ≤ a ∧ a ≤ b ∧ b ≤ (Document.ofText path text marker).lineCount) ∧
    (∀ a b s, (Document.ofText path text marker).slice? a b = some s →
      (s.toList.splitOn '\n').map (fun l => some (String.ofList l)) =
        (List.range' a (b + 1 - a)).map (Document.ofText path text marker).line?) ∧
    (∀ a b c, 1 ≤ a → a ≤ b → b < c → c ≤ (Document.ofText path text marker).lineCount →
      ∃ s t, (Document.ofText path text marker).slice? a b = some s ∧
        (Document.ofText path text marker).slice? (b + 1) c = some t ∧
        (Document.ofText path text marker).slice? a c = some (s ++ "\n" ++ t)) ∧
    (0 < (Document.ofText path text marker).lineCount →
      ∃ s, (Document.ofText path text marker).slice? 1
          (Document.ofText path text marker).lineCount = some s ∧
        ((Document.ofText path text marker).text = s ++ "\n" ∨
          (Document.ofText path text marker).text = s ∧ s.toList.getLast? ≠ some '\n')) ∧
    ((Document.ofText path text marker).lineCount = 0 ↔
      (Document.ofText path text marker).text = "") :=
  ⟨fun _ => Document.isSome_line? _, fun _ _ => breaks_notMem_of_line?,
    fun _ _ => Document.isSome_slice? _, fun _ _ _ => splitOn_of_slice?,
    fun _ _ _ => Document.slice?_append _, slice?_whole, lineCount_eq_zero_iff⟩

end TestLocator.Locating
