import TestLocator.Batch.Process
import TestLocator.Files.Disk

/-!
# Running a batch

* `openInput` — the bytes of an input file;
* **`runBatch`** — read the input, process its rows, and only then write the output.
-/

namespace TestLocator.Batch

open TestLocator.Files

/-- The bytes of an input. A directory can be opened, but reading it fails. -/
def openInput (d : Disk) (input : Path) : Except AccessFailure ByteStream :=
  match d.resolve input with
  | .error e => .error e
  | .ok s =>
    match d.entry? s with
    | some (.file content) => .ok { bytes := content }
    | some .directory => .ok { bytes := [], failure := some isADirectory }
    | none => .error noSuchFile

/-- Read the rows of an input, process them, and write the results to an output that takes as much
as `sink` does. Gives the disk after the run, and the counts. -/
def runBatch (d : Disk) (input output : Path) (options : BatchOptions) (sink : ByteSink := {}) :
    Disk × Except BatchFailure BatchSummary :=
  match openInput d input with
  | .error e => (d, .error (.input input e))
  | .ok stream =>
    match readRows stream input with
    | .error e => (d, .error e)
    | .ok rows =>
      match processRows d.view rows options with
      | .error e => (d, .error e)
      | .ok results =>
        let (bytes, written) := writeRows sink output (results.map (·.1))
        match d.write output bytes with
        | .error e => (d, .error (.output output e))
        | .ok d => (d, written.map fun _ => summarize results)

end TestLocator.Batch
