import TestLocator.Batch.Run
import TestLocator.Command.Help
import TestLocator.Command.Line
import TestLocator.Config.Files

/-!
# Running the program

* `Ending` — how a run ends, and the disk after it;
* `complaint` — a failure with what has caused it;
* `effectiveMarker`, `batchOptions`, `workerCount` — command line over configuration file;
* `runLocate`, `runBatchRequest`, `runInit`;
* **`run`** — what some words do on a disk.
-/

namespace TestLocator.Command

open TestLocator.Batch TestLocator.Config TestLocator.Files TestLocator.Locating

/-- How a run ends. -/
structure Ending where
  /-- The exit code. -/
  code : Nat := 0
  /-- What is printed. -/
  output : String := ""
  /-- What is printed for failures. -/
  complaint : String := ""
  /-- The disk after the run. -/
  disk : Disk
  deriving Inhabited

/-! ## Complaints -/

/-- A text whose lines after the first one are moved to the right. -/
def indent (gap text : String) : String :=
  ("\n" ++ gap).intercalate (text.splitOn "\n")

/-- Causes with their numbers. -/
def numberedCauses (n : Nat) : List String → String
  | [] => ""
  | cause :: causes =>
    "\n    " ++ toString n ++ ": " ++ indent "       " cause ++ numberedCauses (n + 1) causes

/-- A failure with what has caused it. Several causes are numbered. -/
def complaint : List String → String
  | [] => ""
  | [failure] => "Error: " ++ failure ++ "\n"
  | [failure, cause] => "Error: " ++ failure ++ "\n\nCaused by:\n    " ++ indent "    " cause ++ "\n"
  | failure :: causes => "Error: " ++ failure ++ "\n\nCaused by:" ++ numberedCauses 0 causes ++ "\n"

/-- The wordings of a failure, each explained by the next one. -/
def chain : BatchFailure → List String
  | e@(.invalidProjectRoot _) | e@.missingProjectRoot => [e.message]
  | e@(.input _ cause) | e@(.output _ cause) => [e.message, cause.message]

/-! ## Command line over configuration file -/

/-- The marker of a search. -/
def effectiveMarker (given : Option String) (settings : Settings) : String :=
  given.getD settings.marker

/-- The options of a batch. -/
def batchOptions (r : BatchRequest) (settings : Settings) : Except BatchFailure BatchOptions :=
  match r.projectRoot <|> settings.projectRoot with
  | none => .error .missingProjectRoot
  | some projectRoot =>
    .ok {
      projectRoot
      marker := effectiveMarker r.marker settings
      parallel := settings.parallel && !r.noParallel
      showProgress := true }

/-- The number of workers: as many as there are cores if no number is given. It stands alone, as the
ending of a run is the same for any number of them. -/
def workerCount (cores jobs : Nat) : Nat := if jobs = 0 then cores else jobs

/-! ## Runs -/

/-- Search a file and print what comes of it. -/
def runLocate (d : Disk) (settings : Settings) (r : LocateRequest) : Ending :=
  let outcome := locate d.view r.file r.line (effectiveMarker r.marker settings)
  { code := if outcome.isOk then 0 else 1
    output := render outcome r.format ++ "\n"
    disk := d }

/-- Process the rows of a table. -/
def runBatchRequest (d : Disk) (settings : Settings) (r : BatchRequest) (sink : ByteSink := {}) :
    Ending :=
  match batchOptions r settings with
  | .error e => { code := 1, complaint := complaint (chain e), disk := d }
  | .ok options =>
    match runBatch d r.input r.output options sink with
    | (d, .error e) =>
      { code := 1
        complaint := complaint (("Batch run on " ++ r.input.text ++ " failed") :: chain e)
        disk := d }
    | (d, .ok _) => { output := "Results written to " ++ r.output.text ++ "\n", disk := d }

/-- Write a configuration file in the working directory. -/
def runInit (d : Disk) (force : Bool) : Ending :=
  match initSettings d ⟨"."⟩ force with
  | .error e => { code := 1, complaint := complaint e.chain, disk := d }
  | .ok d => { output := "Created " ++ configName ++ " configuration file\n", disk := d }

/-- Do what is asked for. -/
def runInvocation (d : Disk) (i : Invocation) (sink : ByteSink := {}) : Ending :=
  match i.request with
  | .locate r => runLocate d (loadSettings d d.workingPath) r
  | .batch r => runBatchRequest d (loadSettings d d.workingPath) r sink
  | .init force => runInit d force

/-- What a command line that does not lead to a run comes to. -/
def usageEnding (d : Disk) (rootVariable : Option String) : UsageFault → Ending
  | .help topic => { output := helpText rootVariable topic, disk := d }
  | .version => { output := versionText, disk := d }
  | .nothingGiven => { code := 2, complaint := helpText rootVariable .program, disk := d }
  | e => { code := 2, complaint := "error: " ++ e.message ++ "\n", disk := d }

/-- What some words do on a disk, where a variable may name the project root. The output of a batch
takes as much as `sink` does. -/
def run (d : Disk) (rootVariable : Option String) (words : List String) (sink : ByteSink := {}) :
    Ending :=
  match Invocation.ofWords rootVariable words with
  | .error e => usageEnding d rootVariable e
  | .ok i => runInvocation d i sink

end TestLocator.Command
