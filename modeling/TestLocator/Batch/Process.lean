import TestLocator.Batch.Table

/-!
# Processing rows

* `BatchOptions`, `RowStatus`;
* `processRow`, **`processRows`**;
* `BatchSummary`, `summarize`.
-/

namespace TestLocator.Batch

open TestLocator.Files TestLocator.Locating

/-- How a batch is run. -/
structure BatchOptions where
  projectRoot : Path
  marker : String := defaultMarker
  /-- Rows may be processed at once; the results do not hang on it. -/
  parallel : Bool := true
  showProgress : Bool := false
  deriving DecidableEq, Repr, Inhabited

/-- What has become of a row. -/
inductive RowStatus where
  | matched
  | failed (kind : FailureKind)
  deriving DecidableEq, Repr, Inhabited

/-- The output for a row. -/
def processRow (files : FileView) (options : BatchOptions) (row : InputRow) :
    OutputRow × RowStatus :=
  match row with
  | .error e => (.malformed none e, .failed e.kind)
  | .ok row =>
    match row.resolvePath options.projectRoot with
    | .error e => (.malformed none e, .failed e.kind)
    | .ok path =>
      match row.targetLine with
      | .error e => (.malformed (some path) e, .failed e.kind)
      | .ok line =>
        match locate files path line options.marker with
        | .ok b => (.matched path b, .matched)
        | .error e => (.failed path e, .failed e.kind)

/-- The outputs for all rows, in their order, if the project root is a directory. -/
def processRows (files : FileView) (rows : List InputRow) (options : BatchOptions) :
    Except BatchFailure (List (OutputRow × RowStatus)) :=
  if files.isDirectory options.projectRoot then .ok (rows.map (processRow files options))
  else .error (.invalidProjectRoot options.projectRoot)

theorem processRows_eq_ok_iff {files : FileView} {rows : List InputRow} {options : BatchOptions}
    {results : List (OutputRow × RowStatus)} :
    processRows files rows options = .ok results ↔
      files.isDirectory options.projectRoot = true ∧ rows.map (processRow files options) = results := by
  unfold processRows
  split <;> simp_all

/-- How many rows have come to what. -/
structure BatchSummary where
  rows : Nat := 0
  matched : Nat := 0
  noMatch : Nat := 0
  malformed : Nat := 0
  errors : Nat := 0
  deriving DecidableEq, Repr, Inhabited

/-- Count one more row. -/
def BatchSummary.record (s : BatchSummary) (status : RowStatus) : BatchSummary :=
  let s := { s with rows := s.rows + 1 }
  match status with
  | .matched => { s with matched := s.matched + 1 }
  | .failed .noMatch => { s with noMatch := s.noMatch + 1 }
  | .failed .malformedInput => { s with malformed := s.malformed + 1 }
  | .failed _ => { s with errors := s.errors + 1 }

/-- The counts of some results. -/
def summarize (results : List (OutputRow × RowStatus)) : BatchSummary :=
  results.foldl (fun s r => s.record r.2) {}

end TestLocator.Batch
