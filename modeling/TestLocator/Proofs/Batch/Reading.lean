import TestLocator.Batch.Run
import TestLocator.Proofs.Csv.Header

/-!
# Reading the rows of an input

Reading record by record gives a row for every record of the table behind its header. Where reading
fails it depends on the header what comes of the failure.

* `rowsOf` — the rows that the records of a table are;
* `readFrom_eq`, `readRows_whole`, `readRows_broken` — what reading gives;
* **`readRows_broken_off`** — a failure is told exactly if it comes behind the header;
* `runBatch_directory` — an input that cannot be read at all passes for an empty one.
-/

namespace TestLocator.Batch

open TestLocator.Csv TestLocator.Files TestLocator.Text

/-! ## Record by record -/

/-- The rows of some records, of which the first is the header. -/
def rowsOf : List Record → List InputRow
  | [] => []
  | header :: records => records.map (inputRow (headerNames? header))

theorem readFrom_eq (source : Path) (names : Option (List String)) (rows : List InputRow)
    {c : Cursor AccessFailure} (hc : c.Ready) :
    readFrom source names rows c =
      match c.fault with
      | some cause => .error (.input source cause)
      | none => .ok (rows.reverse ++ c.left.map (inputRow names)) := by
  fun_induction readFrom source names rows c with
  | case1 rows c cause c' h =>
    obtain ⟨c₁, -, ⟨record, hnext, -⟩ | ⟨-, -, -, ⟨e, hnext, hfault⟩ | ⟨hnext, -⟩⟩⟩ :=
      Cursor.next_cases hc
    all_goals rw [hnext] at h; cases h
    rw [hfault]
  | case2 rows c c' h =>
    obtain ⟨c₁, -, ⟨record, hnext, -⟩ | ⟨hleft, -, -, ⟨e, hnext, -⟩ | ⟨hnext, hfault⟩⟩⟩ :=
      Cursor.next_cases hc
    all_goals rw [hnext] at h; cases h
    rw [hfault, hleft]
    simp
  | case3 rows c record c' h ih =>
    obtain ⟨c₁, hc₁, ⟨record', hnext, hleft, hfault⟩ | ⟨-, -, -, ⟨e, hnext, -⟩ | ⟨hnext, -⟩⟩⟩ :=
      Cursor.next_cases hc
    all_goals rw [hnext] at h; cases h
    rw [ih hc₁, hfault, hleft]
    simp

theorem readRows_eq (stream : ByteStream) (source : Path) :
    readRows stream source =
      let c := Cursor.ofBytes stream.bytes stream.failure
      match c.fault with
      | some cause => if c.left = [] then .ok [] else .error (.input source cause)
      | none => .ok (rowsOf c.left) := by
  have hc := Cursor.ready_ofBytes stream.bytes stream.failure
  unfold readRows
  generalize Cursor.ofBytes stream.bytes stream.failure = c at hc ⊢
  obtain ⟨c', hc', ⟨header, hnext, hleft, hfault⟩ | ⟨hleft, hleft', hfault', hnext⟩⟩ :=
    Cursor.next_cases hc
  · simp only [hnext, readFrom_eq source _ [] hc', hfault, hleft, namesOf, rowsOf]
    cases c.fault <;> simp
  · -- nothing is left behind a header that is missing, and the failure has been told to no one
    rcases hnext with ⟨e, hnext, hfault⟩ | ⟨hnext, hfault⟩ <;>
      simp [hnext, readFrom_eq source _ [] hc', hfault, hfault', hleft, hleft', rowsOf]

/-- **A table that is read to its end** gives a row for every record behind its header. -/
theorem readRows_whole (bytes : Bytes) (source : Path) :
    readRows { bytes } source = .ok (rowsOf (recordsOf bytes)) := by
  rw [readRows_eq, recordsOf_eq]
  rfl

theorem exists_cause_of_readRows {stream : ByteStream} {source : Path} {e : BatchFailure}
    (h : readRows stream source = .error e) : ∃ cause, e = .input source cause := by
  rw [readRows_eq] at h
  dsimp only at h
  split at h
  · split_ifs at h
    cases h
    exact ⟨_, rfl⟩
  · cases h

theorem readRows_broken (bytes : Bytes) (cause : AccessFailure) (source : Path) :
    readRows ⟨bytes, some cause⟩ source =
      if endedRecords (Reader.atFront bytes).1 (Reader.atFront bytes).2 = [] then .ok []
      else .error (.input source cause) := by
  rw [readRows_eq]
  rfl

/-! ## Failures of reading -/

/-- **A failure is told exactly if the header is known**; else the table passes for an empty one. -/
theorem readRows_broken_off (bytes : Bytes) (n : Nat) (cause : AccessFailure) (source : Path) :
    (readRows ⟨bytes.take n, some cause⟩ source = .error (.input source cause) ↔
      SettlesHeader (bytes.take n)) ∧
    (readRows ⟨bytes.take n, some cause⟩ source = .ok [] ↔ ¬ SettlesHeader (bytes.take n)) := by
  rw [settlesHeader_iff, readRows_broken]
  split_ifs with h <;> simp [h]

/-- Before the end of the header a failure is not told. -/
example (cause : AccessFailure) (source : Path) :
    readRows ⟨encode "Repository,File,Lines".toList, some cause⟩ source = .ok [] := by
  rw [readRows_broken]
  rfl

/-- Right behind the header it is. -/
example (cause : AccessFailure) (source : Path) :
    readRows ⟨encode "Repository,File,Lines\n".toList, some cause⟩ source =
      .error (.input source cause) := by
  rw [readRows_broken]
  rfl

/-- So a batch on a directory is one on an empty input. -/
theorem runBatch_directory {d : Disk} {input : Path} {options : BatchOptions} {s : Spot}
    (hinput : d.resolve input = .ok s) (hs : d.entry? s = some .directory)
    (hroot : d.view.isDirectory options.projectRoot) (output : Path) (sink : ByteSink) :
    runBatch d input output options sink =
      match d.write output [] with
      | .error cause => (d, .error (.output output cause))
      | .ok d => (d, .ok {}) := by
  have hopen : openInput d input = .ok ⟨[], some isADirectory⟩ := by simp [openInput, hinput, hs]
  have hrows : readRows ⟨[], some isADirectory⟩ input = .ok [] := by rw [readRows_broken]; rfl
  have hresults : processRows d.view [] options = .ok [] := by
    rw [processRows, if_pos hroot, List.map_nil]
  have hwritten : writeRows sink output [] = ([], .ok ()) := by
    unfold writeRows
    cases sink.limit with
    | none => rfl
    | some n => exact if_pos (Nat.zero_le n)
  simp only [runBatch, hopen, hrows, hresults, List.map_nil, hwritten]
  rfl

end TestLocator.Batch
