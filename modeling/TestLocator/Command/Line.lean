import TestLocator.Command.Reading
import TestLocator.Files.Path
import TestLocator.Locating.Report

/-!
# Command lines

* `LocateRequest`, `BatchRequest`, `Request`, `Invocation` — what a command line asks for;
* `readPath`, `readNatural`, `readFormat`, `once` — values;
* `locateLevel`, `batchLevel`, `initLevel`, `programLevel` — the words of each level;
* **`Invocation.ofWords`** — what some words ask for.
-/

namespace TestLocator.Command

open TestLocator.Files TestLocator.Locating

/-- Find the test around a line. -/
structure LocateRequest where
  file : Path
  line : Nat
  format : Format := .plain
  marker : Option String := none
  deriving DecidableEq, Repr, Inhabited

/-- Process the rows of a table. -/
structure BatchRequest where
  input : Path
  output : Path
  projectRoot : Option Path := none
  jobs : Option Nat := none
  noParallel : Bool := false
  marker : Option String := none
  deriving DecidableEq, Repr, Inhabited

/-- What is to be done. -/
inductive Request where
  | locate (r : LocateRequest)
  | batch (r : BatchRequest)
  /-- Write a configuration file, also in the place of one that is there. -/
  | init (force : Bool)
  deriving DecidableEq, Repr, Inhabited

/-- What a command line asks for. -/
structure Invocation where
  verbosity : Nat := 0
  request : Request
  deriving DecidableEq, Repr, Inhabited

/-! ## Verbosity -/

/-- How much is logged. -/
inductive LogLevel where
  | warn
  | info
  | debug
  | trace
  deriving DecidableEq, Repr, Inhabited

/-- How much is logged at a verbosity. It stands alone, as what is logged is no part of the ending
of a run. -/
def LogLevel.ofVerbosity : Nat → LogLevel
  | 0 => .warn
  | 1 => .info
  | 2 => .debug
  | _ => .trace

/-- The name of a level. -/
def LogLevel.name : LogLevel → String
  | warn => "warn"
  | info => "info"
  | debug => "debug"
  | trace => "trace"

/-- Verbosity does not grow beyond this. -/
def maxVerbosity : Nat := 255

/-- The verbosity after one more switch. -/
def raise (verbosity : Option Nat) : Option Nat := some (min maxVerbosity (verbosity.getD 0 + 1))

/-! ## Values -/

/-- A path is not empty. -/
def readPath (word : String) : Except UsageFault Path :=
  if word.isEmpty then .error .invalidValue else .ok ⟨word⟩

/-- Decimal digits, perhaps after a plus sign, for a number of 64 bits. -/
def readNatural (word : String) : Except UsageFault Nat :=
  let digits := match word.toList with
    | '+' :: cs => cs
    | cs => cs
  if digits.isEmpty ∨ digits.any fun c => c < '0' ∨ '9' < c then .error .invalidNumber
  else
    let n := digits.foldl (fun n c => n * 10 + (c.toNat - 48)) 0
    if n < Nat.pow 2 64 then .ok n else .error .invalidNumber

/-- A format by its name. -/
def readFormat : String → Except UsageFault Format
  | "text" => .ok .plain
  | "json" => .ok .json
  | _ => .error .invalidValue

/-- Set what may be set once. -/
def once {α σ : Type} (get : σ → Option α) (set : σ → α → σ) (read : String → Except UsageFault α) :
    Assign σ := fun word s => if (get s).isSome then .error .repeated else (read word).map (set s)

/-- Raise a flag, once. -/
def flag {σ : Type} (get : σ → Bool) (set : σ → σ) : Action σ :=
  .alone fun s => if get s then .error .repeated else .ok (set s)

/-! ## Levels -/

/-- What has been said of a search so far. -/
structure LocateWords where
  file : Option Path := none
  line : Option Nat := none
  format : Option Format := none
  marker : Option String := none
  verbosity : Option Nat := none
  deriving Inhabited

/-- What has been said of a batch so far. -/
structure BatchWords where
  input : Option Path := none
  output : Option Path := none
  projectRoot : Option Path := none
  jobs : Option Nat := none
  noParallel : Bool := false
  marker : Option String := none
  verbosity : Option Nat := none
  deriving Inhabited

/-- What has been said of a configuration file so far. -/
structure InitWords where
  force : Bool := false
  verbosity : Option Nat := none
  deriving Inhabited

/-- The switch that asks for help. -/
def helpSwitch {σ : Type} (topic : Topic) : Switch σ :=
  { short := some 'h', long := "help", action := .alone fun _ => .error (.help topic) }

/-- The switch that raises the verbosity. -/
def verbositySwitch {σ : Type} (f : σ → σ) : Switch σ :=
  { short := some 'v', long := "verbose", action := .alone fun s => .ok (f s) }

/-- The words of a search. -/
def locateLevel : Level LocateWords where
  switches := [
    { short := some 'f', long := "format"
      action := .withValue (once (·.format) (fun s v => { s with format := some v }) readFormat) },
    { long := "marker"
      action := .withValue (once (·.marker) (fun s v => { s with marker := some v }) .ok) },
    verbositySwitch fun s => { s with verbosity := raise s.verbosity },
    helpSwitch .locate]
  places := [
    once (·.file) (fun s v => { s with file := some v }) readPath,
    once (·.line) (fun s v => { s with line := some v }) readNatural]
  surplus _ _ := .unknownArgument

/-- The words of a batch. -/
def batchLevel : Level BatchWords where
  switches := [
    { long := "project-root"
      action :=
        .withValue (once (·.projectRoot) (fun s v => { s with projectRoot := some v }) readPath) },
    { short := some 'j', long := "jobs"
      action := .withValue (once (·.jobs) (fun s v => { s with jobs := some v }) readNatural) },
    { long := "no-parallel"
      action := flag (·.noParallel) fun s => { s with noParallel := true } },
    { long := "marker"
      action := .withValue (once (·.marker) (fun s v => { s with marker := some v }) .ok) },
    verbositySwitch fun s => { s with verbosity := raise s.verbosity },
    helpSwitch .batch]
  places := [
    once (·.input) (fun s v => { s with input := some v }) readPath,
    once (·.output) (fun s v => { s with output := some v }) readPath]
  surplus _ _ := .unknownArgument

/-- The words of a configuration file. -/
def initLevel : Level InitWords where
  switches := [
    { short := some 'f', long := "force"
      action := flag (·.force) fun s => { s with force := true } },
    verbositySwitch fun s => { s with verbosity := raise s.verbosity },
    helpSwitch .init]
  surplus _ _ := .unknownArgument

/-- The names of the commands. -/
def commandNames : List String := ["locate", "batch", "init", "help"]

/-- The words before a command; the state is the verbosity. -/
def programLevel : Level (Option Nat) where
  switches := [
    verbositySwitch raise,
    helpSwitch .program,
    { short := some 'V', long := "version", action := .alone fun _ => .error .version }]
  commands := commandNames
  surplus afterHyphens word :=
    if afterHyphens ∧ commandNames.contains word then .unknownArgument else .unknownCommand

/-! ## Requests -/

/-- A value that must be there. -/
def required {α : Type} : Option α → Except UsageFault α
  | some v => .ok v
  | none => .error .missingArgument

/-- The search that words ask for, and its verbosity. -/
def LocateWords.request (s : LocateWords) : Except UsageFault LocateRequest := do
  let file ← required s.file
  let line ← required s.line
  return { file, line, format := s.format.getD .plain, marker := s.marker }

/-- The batch that words ask for. The value of the variable stands for a project root that is not
given. -/
def BatchWords.request (s : BatchWords) (rootVariable : Option String) :
    Except UsageFault BatchRequest := do
  let projectRoot ← match s.projectRoot, rootVariable with
    | some p, _ => pure (some p)
    | none, some v => (readPath v).map some
    | none, none => pure none
  let input ← required s.input
  let output ← required s.output
  return {
    input, output, projectRoot
    jobs := s.jobs
    noParallel := s.noParallel
    marker := s.marker }

/-- The topic of the command of a name. -/
def topicOf? : String → Option Topic
  | "locate" => some .locate
  | "batch" => some .batch
  | "init" => some .init
  | "help" => some .help
  | _ => none

/-- What words after the command for help ask for. -/
def helpFault : List String → UsageFault
  | [] => .help .program
  | [name] =>
    match topicOf? name with
    | some topic => .help topic
    | none => .unknownCommand
  | _ :: _ :: _ => .unknownCommand

/-- What the words of a command ask for, with the verbosity that is given before the command. The
verbosity that is given after it comes first. -/
def Invocation.ofCommand (rootVariable : Option String) (verbosity : Option Nat) :
    Topic → List String → Except UsageFault Invocation
  | .locate, words => do
    let (s, _) ← locateLevel.read {} words
    let r ← s.request
    return ⟨(s.verbosity <|> verbosity).getD 0, .locate r⟩
  | .batch, words => do
    let (s, _) ← batchLevel.read {} words
    let r ← s.request rootVariable
    return ⟨(s.verbosity <|> verbosity).getD 0, .batch r⟩
  | .init, words => do
    let (s, _) ← initLevel.read {} words
    return ⟨(s.verbosity <|> verbosity).getD 0, .init s.force⟩
  | .help, words | .program, words => .error (helpFault words)

/-- What words ask for, where a variable may name the project root. -/
def Invocation.ofWords (rootVariable : Option String) (words : List String) :
    Except UsageFault Invocation := do
  let (verbosity, rest) ← programLevel.read none words
  match rest with
  | [] => .error (if verbosity.isSome then .missingCommand else .nothingGiven)
  | name :: words =>
    match topicOf? name with
    | some topic => ofCommand rootVariable verbosity topic words
    | none => .error .unknownCommand

end TestLocator.Command
