import TestLocator.Locating.Report
import TestLocator.Proofs.Json.Layouts

/-!
# Reports read back

What a search tells of its outcome determines the outcome, in each of the three ways in which it is
told.

* `report_fits` — a report can be written if the lines of a match fit into 64 bits;
* `toList_rangeLabel`, `rangeLabel_inj` — the lines of a match as they are told;
* `takeWhile_renderPlain`, `dropWhile_renderPlain` — the first line of a match in plain words, and
  what comes behind it;
* **`render_read_back`** — what can be read off a rendered outcome.
-/

namespace TestLocator.Locating

open TestLocator.Json

variable {b b' : TestBlock}

/-! ## Reports -/

theorem report_fits {outcome : Outcome}
    (h : ∀ b, outcome = .ok b → b.startLine < Nat.pow 2 64 ∧ b.endLine < Nat.pow 2 64) :
    ∀ m ∈ report outcome, m.2.Fits := by
  cases outcome with
  | error e => exact List.forall_mem_singleton.mpr trivial
  | ok b =>
    obtain ⟨hstart, hend⟩ := h b rfl
    exact List.forall_mem_cons.mpr ⟨trivial, List.forall_mem_cons.mpr ⟨hstart,
      List.forall_mem_singleton.mpr hend⟩⟩

/-! ## Plain words -/

theorem toList_rangeLabel (b : TestBlock) :
    b.rangeLabel.toList = "start: ".toList ++ (Nat.toDigits 10 b.startLine ++
      (" end: ".toList ++ Nat.toDigits 10 b.endLine)) := by
  simp only [TestBlock.rangeLabel, String.toList_append, Nat.toString_eq_repr, Nat.toList_repr,
    List.append_assoc]
  rfl

/-- The lines of a match are told in one line. -/
theorem newline_notMem_rangeLabel (b : TestBlock) : '\n' ∉ b.rangeLabel.toList := by
  have hdigits : ∀ n, '\n' ∉ Nat.toDigits 10 n := fun n h =>
    ne_of_isDigit (areDigits_toDigits n '\n' h) rfl rfl
  rw [toList_rangeLabel, List.mem_append, List.mem_append, List.mem_append]
  rintro (h | h | h | h)
  · exact absurd h (by decide)
  · exact hdigits _ h
  · exact absurd h (by decide)
  · exact hdigits _ h

theorem rangeLabel_inj (h : b.rangeLabel = b'.rangeLabel) :
    b.startLine = b'.startLine ∧ b.endLine = b'.endLine := by
  have hlist := congrArg String.toList h
  rw [toList_rangeLabel, toList_rangeLabel] at hlist
  have hends : ∀ rest, EndsDigits (" end: ".toList ++ rest) := by
    rintro rest _ ⟨⟩
    decide
  obtain ⟨hstart, hrest⟩ := digits_append_inj (areDigits_toDigits _) (areDigits_toDigits _)
    (hends _) (hends _) (List.append_cancel_left hlist)
  exact ⟨toDigits_inj hstart, toDigits_inj (List.append_cancel_left hrest)⟩

theorem toList_renderPlain (b : TestBlock) :
    (renderPlain (.ok b)).toList = b.rangeLabel.toList ++ '\n' :: b.text.toList := by
  simp [renderPlain]

theorem ne_newline_of_mem_rangeLabel (b : TestBlock) :
    ∀ c ∈ b.rangeLabel.toList, decide (c ≠ '\n') = true := by
  intro c hc
  refine decide_eq_true fun hnewline => newline_notMem_rangeLabel b ?_
  rwa [← hnewline]

theorem takeWhile_renderPlain (b : TestBlock) :
    (renderPlain (.ok b)).toList.takeWhile (· ≠ '\n') = b.rangeLabel.toList := by
  rw [toList_renderPlain, List.takeWhile_append_of_pos (ne_newline_of_mem_rangeLabel b),
    List.takeWhile_cons_of_neg (by decide), List.append_nil]

theorem dropWhile_renderPlain (b : TestBlock) :
    (renderPlain (.ok b)).toList.dropWhile (· ≠ '\n') = '\n' :: b.text.toList := by
  rw [toList_renderPlain, List.dropWhile_append_of_pos (ne_newline_of_mem_rangeLabel b),
    List.dropWhile_cons_of_neg (by decide)]

theorem renderPlain_inj (h : renderPlain (.ok b) = renderPlain (.ok b')) : b = b' := by
  have hline := congrArg (fun s => s.toList.takeWhile (· ≠ '\n')) h
  have htext := congrArg (fun s => s.toList.dropWhile (· ≠ '\n')) h
  simp only [takeWhile_renderPlain, String.toList_inj] at hline
  simp only [dropWhile_renderPlain, List.cons.injEq, true_and, String.toList_inj] at htext
  obtain ⟨hstart, hend⟩ := rangeLabel_inj hline
  cases b
  cases b'
  simp_all

/-- A match begins with another letter than a failure. -/
theorem renderPlain_ok_ne_error (b : TestBlock) (e : Failure) :
    renderPlain (.ok b) ≠ renderPlain (.error e) := by
  intro h
  have hhead := congrArg (fun s => s.toList.head?) h
  simp [toList_rangeLabel, renderPlain] at hhead

/-! ## Reading back -/

/-- An outcome is told as a value: on one line as well as with a line for each member, the text is
that value by the rules of the format, and it is decoded to it. -/
def ToldAs (v : Value) (outcome : Outcome) : Prop :=
  ∀ text ∈ [compact (report outcome), (render outcome .json).toList],
    SpellsText v text ∧ Value.ofText text = .ok v

theorem toldAs_report {outcome : Outcome}
    (h : ∀ b, outcome = .ok b → b.startLine < Nat.pow 2 64 ∧ b.endLine < Nat.pow 2 64) :
    ToldAs (report outcome).value outcome := by
  have hfits := report_fits h
  obtain ⟨hcompact, hpretty⟩ := ofText_layouts hfits
  refine List.forall_mem_cons.mpr ⟨⟨spellsText_compact hfits, hcompact⟩,
    List.forall_mem_singleton.mpr ?_⟩
  rw [render, String.toList_ofList]
  exact ⟨spellsText_pretty hfits, hpretty⟩

/-- **What is told of an outcome can be read back**, in each format. -/
theorem render_read_back :
    (∀ b : TestBlock, b.startLine < Nat.pow 2 64 → b.endLine < Nat.pow 2 64 →
      ToldAs (.object [("text", .string b.text), ("start_line", .number (.natural b.startLine)),
        ("end_line", .number (.natural b.endLine))]) (.ok b)) ∧
    (∀ e : Failure, ToldAs (.object [("error", .string e.message)]) (.error e)) ∧
    (∀ b : TestBlock,
      (render (.ok b) .plain).toList.takeWhile (· ≠ '\n') =
        s!"start: {b.startLine} end: {b.endLine}".toList ∧
      (render (.ok b) .plain).toList.dropWhile (· ≠ '\n') = '\n' :: b.text.toList) ∧
    (∀ b b' : TestBlock, render (.ok b) .plain = render (.ok b') .plain → b = b') ∧
    ∀ (b : TestBlock) (e : Failure), render (.ok b) .plain ≠ render (.error e) .plain := by
  refine ⟨fun b hstart hend => ?_, fun e => toldAs_report nofun,
    fun b => ⟨takeWhile_renderPlain b, dropWhile_renderPlain b⟩, fun _ _ => renderPlain_inj,
    renderPlain_ok_ne_error⟩
  refine toldAs_report fun b' hb => ?_
  cases hb
  exact ⟨hstart, hend⟩

/-- A match whose text looks like a report of its own, up to the last line that there may be. -/
theorem render_read_back_quoted :
    let b : TestBlock := ⟨"start: 1 end: 2\n\"\\\x01é😀", 7, 18446744073709551615⟩
    b.startLine < Nat.pow 2 64 ∧ b.endLine < Nat.pow 2 64 ∧
    Value.ofText (compact (report (.ok b))) = Value.ofText (render (.ok b) .json).toList ∧
    Value.ofText (compact (report (.ok b))) =
      .ok (.object [("text", .string "start: 1 end: 2\n\"\\\x01é😀"),
        ("start_line", .number (.natural 7)),
        ("end_line", .number (.natural 18446744073709551615))]) := by
  intro b
  have hstart : b.startLine < Nat.pow 2 64 := by decide
  have hend : b.endLine < Nat.pow 2 64 := by decide
  have htold := render_read_back.1 b hstart hend
  have hcompact := (htold _ List.mem_cons_self).2
  have hpretty := (htold _ (List.mem_cons_of_mem _ List.mem_cons_self)).2
  exact ⟨hstart, hend, hcompact.trans hpretty.symm, hcompact⟩

end TestLocator.Locating
