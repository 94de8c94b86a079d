import Mathlib.Data.List.Induction
import TestLocator.Proofs.Batch.Location
import TestLocator.Proofs.Batch.RowForRow
import TestLocator.Proofs.Locating.Outcomes

/-!
# The summary and the output

What has become of a row can be read off the row of the output, so the summary of a batch can be
counted from the file that it has written.

* `lead`, `Says`, `Says.kind_eq` — what the output says of a failure tells its kind;
* `Shows` — what has become of a row, read off the output;
* `malformed_of_readRows`, `targetLine_pos` — where failures of the input come from, and that they
  cannot come from the search;
* `shows_processRow` — the output of a row shows what has become of it;
* `summarize_eq` — the counts of a summary;
* **`summarize_readAll?`** — the summary counts what the rows of the written file show.
-/

namespace TestLocator.Batch

open TestLocator.Files TestLocator.Locating

/-! ## What the output says -/

/-- How the words for a kind of failure begin. -/
def lead : FailureKind → String
  | .fileNotFound => "File not found: "
  | .parse => "Parsing error: "
  | .noMatch => noMatchMessage
  | .malformedInput => "Error: Malformed input: "
  | .unreadable => "Failed to read "

/-- A text says that a search has failed in some way: it begins with the words for this, and nothing
follows where no test encloses the line. -/
def Says (text : String) : FailureKind → Prop
  | .noMatch => text = noMatchMessage
  | kind => (lead kind).toList <+: text.toList

instance (text : String) : DecidablePred (Says text)
  | .noMatch => inferInstanceAs (Decidable (text = noMatchMessage))
  | .fileNotFound => inferInstanceAs (Decidable (_ <+: _))
  | .parse => inferInstanceAs (Decidable (_ <+: _))
  | .malformedInput => inferInstanceAs (Decidable (_ <+: _))
  | .unreadable => inferInstanceAs (Decidable (_ <+: _))

/-- What has become of a row, as its output shows it. -/
def Shows (r : OutputRow) : RowStatus → Prop
  | .matched => r.range ≠ ""
  | .failed kind => r.range = "" ∧ Says r.test kind

instance (r : OutputRow) : DecidablePred (Shows r)
  | .matched => inferInstanceAs (Decidable (r.range ≠ ""))
  | .failed kind => inferInstanceAs (Decidable (r.range = "" ∧ Says r.test kind))

theorem Says.lead_isPrefix {text : String} {kind : FailureKind} (h : Says text kind) :
    (lead kind).toList <+: text.toList := by
  cases kind with
  | noMatch => exact (congrArg String.toList h).symm ▸ List.prefix_refl _
  | fileNotFound => exact h
  | parse => exact h
  | malformedInput => exact h
  | unreadable => exact h

theorem lead_inj : ∀ kind kind', (lead kind).toList <+: (lead kind').toList → kind = kind' := by
  intro kind kind'
  cases kind <;> cases kind' <;> decide

/-- **No text says two things.** -/
theorem Says.kind_eq {text : String} {kind kind' : FailureKind} (h : Says text kind)
    (h' : Says text kind') : kind = kind' := by
  rcases List.prefix_or_prefix_of_prefix h.lead_isPrefix h'.lead_isPrefix with hle | hle
  · exact lead_inj _ _ hle
  · exact (lead_inj _ _ hle).symm

theorem Shows.status_eq {r : OutputRow} {s s' : RowStatus} (h : Shows r s) (h' : Shows r s') :
    s = s' := by
  cases s with
  | matched =>
    cases s' with
    | matched => rfl
    | failed kind' => exact absurd h'.1 h
  | failed kind =>
    cases s' with
    | matched => exact absurd h.1 h'
    | failed kind' => rw [h.2.kind_eq h'.2]

/-! ## What the output of a row shows -/

theorem says_message {e : Failure} (h : e.kind ≠ .malformedInput) : Says e.message e.kind := by
  unfold Failure.message
  cases e with
  | noMatch path line => rfl
  | malformedInput reason => exact absurd rfl h
  | fileNotFound path => exact ⟨path.text.toList, by simp [lead, Failure.kind]⟩
  | parse path line column reason => exact ⟨reason.toList, by simp [lead, Failure.kind]⟩
  | unreadable path cause =>
    exact ⟨(path.text ++ ": " ++ cause.message).toList, by simp [lead, Failure.kind]⟩

theorem says_malformed {e : Failure} (h : e.kind = .malformedInput) :
    Says ("Error: " ++ e.message) .malformedInput := by
  unfold Failure.message
  cases e with
  | malformedInput reason => exact ⟨reason.toList, by simp [lead]⟩
  | noMatch => cases h
  | fileNotFound => cases h
  | parse => cases h
  | unreadable => cases h

theorem rangeLabel_ne_empty (b : TestBlock) : b.rangeLabel ≠ "" := by
  intro h
  have := congrArg String.toList h
  simp [TestBlock.rangeLabel] at this

theorem targetLine_pos {raw : String} {n : Nat} (h : targetLine raw = .ok n) : 0 < n := by
  unfold targetLine at h
  split at h
  · cases h
  · split at h
    · cases h
    · split at h
      · rename_i hline
        cases h
        simpa using (Option.filter_eq_some_iff.mp hline).2
      · cases h

theorem targetLine_malformed {raw : String} {e : Failure} (h : targetLine raw = .error e) :
    e.kind = .malformedInput := by
  unfold targetLine at h
  split at h
  · cases h
    rfl
  · split at h
    · cases h
      rfl
    · split at h
      · cases h
      · cases h
        rfl

theorem locate_not_malformed {files : FileView} {path : Path} {line : Nat} {marker : String}
    {e : Failure} (hline : 0 < line) (h : locate files path line marker = .error e) :
    e.kind ≠ .malformedInput := by
  have hends := ends_locate files path line marker
  rw [h] at hends
  cases hends with
  | noLine hzero => exact absurd hzero (Nat.ne_of_gt hline)
  | noFile => nofun
  | noText => nofun
  | noTree => nofun
  | noTest => nofun

theorem malformed_of_readRows {stream : ByteStream} {source : Path} {entries : List InputRow}
    (h : readRows stream source = .ok entries) {e : Failure} (he : .error e ∈ entries) :
    e.kind = .malformedInput := by
  have hrows : ∀ records, .error e ∈ rowsOf records → e.kind = .malformedInput := by
    intro records hmem
    cases records with
    | nil => exact absurd hmem List.not_mem_nil
    | cons header records =>
      obtain ⟨r, -, hr⟩ := List.mem_map.mp hmem
      unfold inputRow at hr
      split at hr
      · cases hr
      · cases hr
        rfl
  simp only [readRows_eq] at h
  split at h
  · split_ifs at h
    cases h
    exact absurd he List.not_mem_nil
  · cases h
    exact hrows _ he

/-- **The output of a row shows what has become of it.** -/
theorem shows_processRow (files : FileView) (options : BatchOptions) {entry : InputRow}
    (h : ∀ e, entry = .error e → e.kind = .malformedInput) :
    Shows (processRow files options entry).1 (processRow files options entry).2 := by
  have hmalformed : ∀ (path : Option Path) {e : Failure}, e.kind = .malformedInput →
      Shows (.malformed path e) (.failed e.kind) := by
    intro path e he
    rw [he]
    exact ⟨rfl, says_malformed he⟩
  unfold processRow
  cases entry with
  | error e => exact hmalformed none (h e rfl)
  | ok row =>
    cases hpath : row.resolvePath options.projectRoot with
    | error e => simpa only [hpath] using hmalformed none (resolvePath_malformed hpath)
    | ok path =>
      cases hline : row.targetLine with
      | error e =>
        simpa only [hpath, hline] using hmalformed (some path) (targetLine_malformed hline)
      | ok line =>
        simp only [hpath, hline]
        cases hlocate : locate files path line options.marker with
        | error e => exact ⟨rfl, says_message (locate_not_malformed (targetLine_pos hline) hlocate)⟩
        | ok b => exact rangeLabel_ne_empty b

theorem shows_iff {r : OutputRow × RowStatus} (h : Shows r.1 r.2) (s : RowStatus) :
    Shows r.1 s ↔ r.2 = s :=
  ⟨h.status_eq, fun hs => hs ▸ h⟩

/-! ## The counts -/

theorem summarize_concat (results : List (OutputRow × RowStatus)) (r : OutputRow × RowStatus) :
    summarize (results ++ [r]) = (summarize results).record r.2 := by
  simp [summarize]

theorem record_eq (s : BatchSummary) (status : RowStatus) :
    s.record status =
      { rows := s.rows + 1
        matched := s.matched + [status].count .matched
        noMatch := s.noMatch + [status].count (.failed .noMatch)
        malformed := s.malformed + [status].count (.failed .malformedInput)
        errors := s.errors + ([status].count (.failed .fileNotFound) +
          [status].count (.failed .parse) + [status].count (.failed .unreadable)) } := by
  cases status with
  | matched => rfl
  | failed kind => cases kind <;> rfl

/-- **The counts of a summary** are those of the statuses. -/
theorem summarize_eq (results : List (OutputRow × RowStatus)) :
    summarize results =
      { rows := results.length
        matched := (results.map (·.2)).count .matched
        noMatch := (results.map (·.2)).count (.failed .noMatch)
        malformed := (results.map (·.2)).count (.failed .malformedInput)
        errors := (results.map (·.2)).count (.failed .fileNotFound) +
          (results.map (·.2)).count (.failed .parse) +
          (results.map (·.2)).count (.failed .unreadable) } := by
  induction results using List.reverseRecOn with
  | nil => rfl
  | append_singleton results r ih =>
    rw [summarize_concat, ih, record_eq]
    simp only [List.map_append, List.map_cons, List.map_nil, List.count_append,
      List.length_append, List.length_singleton]
    congr 1
    omega

/-- Every status is counted in one place. -/
theorem summarize_rows (results : List (OutputRow × RowStatus)) :
    (summarize results).rows = (summarize results).matched + (summarize results).noMatch +
      (summarize results).malformed + (summarize results).errors := by
  induction results using List.reverseRecOn with
  | nil => rfl
  | append_singleton results r ih =>
    rw [summarize_concat]
    generalize summarize results = s at ih ⊢
    rcases r.2 with _ | kind
    · simp only [BatchSummary.record]
      omega
    · cases kind <;> simp only [BatchSummary.record] <;> omega

theorem countP_shows {results : List (OutputRow × RowStatus)}
    (h : ∀ r ∈ results, Shows r.1 r.2) (s : RowStatus) :
    (results.map (·.1)).countP (Shows · s) = (results.map (·.2)).count s := by
  rw [List.count, List.countP_map, List.countP_map]
  refine List.countP_congr fun r hr => ?_
  simpa using shows_iff (h r hr) s

/-- **The summary counts what the written file shows.** -/
theorem summarize_readAll? {stream : ByteStream} {source : Path} {files : FileView}
    {options : BatchOptions} {entries : List InputRow} {results : List (OutputRow × RowStatus)}
    (hread : readRows stream source = .ok entries)
    (hprocess : processRows files entries options = .ok results) (destination : Path) :
    (∀ r ∈ results, ∀ s, Shows r.1 s ↔ r.2 = s) ∧
    (∀ text kind kind', Says text kind → Says text kind' → kind = kind') ∧
    (summarize results).rows = entries.length ∧
    (summarize results).rows = (summarize results).matched + (summarize results).noMatch +
      (summarize results).malformed + (summarize results).errors ∧
    ∃ written rows, writeRows {} destination (results.map (·.1)) = (written, .ok ()) ∧
      OutputRow.readAll? written = some rows ∧ rows = results.map (·.1) ∧
      summarize results =
        { rows := rows.length
          matched := rows.countP (Shows · .matched)
          noMatch := rows.countP (Shows · (.failed .noMatch))
          malformed := rows.countP (Shows · (.failed .malformedInput))
          errors := rows.countP (Shows · (.failed .fileNotFound)) +
            rows.countP (Shows · (.failed .parse)) +
            rows.countP (Shows · (.failed .unreadable)) } := by
  have hresults := (processRows_eq_ok_iff.mp hprocess).2
  have hshows : ∀ r ∈ results, Shows r.1 r.2 := by
    intro r hr
    rw [← hresults] at hr
    obtain ⟨entry, hentry, rfl⟩ := List.mem_map.mp hr
    exact shows_processRow files options fun e he =>
      malformed_of_readRows hread (he ▸ hentry)
  refine ⟨fun r hr => shows_iff (hshows r hr), fun _ _ _ h => h.kind_eq, ?_,
    summarize_rows results, _, _, rfl, readAll?_renderRows _, rfl, ?_⟩
  · rw [summarize_eq, ← hresults, List.length_map]
  · simp only [countP_shows hshows, List.length_map]
    exact summarize_eq results

/-- Of the sample, three rows are malformed and one has a file that is not there. -/
theorem summarize_readAll?_sample :
    let entries := rowsOf (Csv.recordsOf sampleInput)
    let results := entries.map (processRow sampleFiles.view sampleOptions)
    readRows { bytes := sampleInput } ⟨"in.csv"⟩ = .ok entries ∧
      processRows sampleFiles.view entries sampleOptions = .ok results ∧
      summarize results = { rows := 4, malformed := 3, errors := 1 } ∧
      sampleOutput.countP (Shows · (.failed .malformedInput)) = 3 := by
  intro entries results
  have hread := readRows_whole sampleInput ⟨"in.csv"⟩
  have hprocess : processRows sampleFiles.view entries sampleOptions = .ok results :=
    if_pos (by decide +kernel)
  have houtput : results.map (·.1) = sampleOutput := by decide +kernel
  obtain ⟨-, -, -, -, -, rows, -, -, hrows, hcounts⟩ :=
    summarize_readAll? hread hprocess ⟨"out.csv"⟩
  rw [houtput] at hrows
  refine ⟨hread, hprocess, ?_, by decide +kernel⟩
  rw [hcounts, hrows]
  decide +kernel

end TestLocator.Batch
