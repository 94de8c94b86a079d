import TestLocator.Config.Settings
import TestLocator.Files.Disk

/-!
# Configuration files

* `configName`, `configPath` — where configuration files are;
* **`loadSettings`** — the settings for a directory: those of the nearest file, in it or above it,
  that can be read;
* `defaultText`, **`initSettings`** — write a configuration file.
-/

namespace TestLocator.Config

open TestLocator.Files

/-- The name of a configuration file. -/
def configName : String := ".smellblock.toml"

/-- The configuration file of a directory. -/
def configPath (directory : Path) : Path := directory.join configName

/-- So many directories are searched. -/
def searchDepth : Nat := 10

/-- The settings in a file, if there is one that can be read. -/
def settingsAt? (d : Disk) (p : Path) : Option Settings :=
  match d.readText p with
  | .ok text => Settings.ofText? text
  | .error _ => none

/-- The settings for a directory. -/
def loadSettings (d : Disk) (start : Path) : Settings :=
  ((start.ancestors searchDepth).findSome? fun p => settingsAt? d (configPath p)).getD {}

/-- What a new configuration file says. -/
def defaultText : String :=
  "# Smellblock Configuration\n" ++
  "\n" ++
  "# Directory holding one checkout per analysed repository.\n" ++
  "# Overridden by --project-root or the PROJECT_PATH environment variable.\n" ++
  "# project_root = \"/path/to/projects\"\n" ++
  "\n" ++
  "# Token removed from sources before parsing (Flow fixture annotations)\n" ++
  "expect_error_marker = \"$ExpectError\"\n" ++
  "\n" ++
  "[batch]\n" ++
  "parallel = true\n" ++
  "# 0 uses every available core\n" ++
  "jobs = 0\n"

/-- Why no configuration file has been written. -/
inductive InitFailure where
  | alreadyThere
  | notWritten (path : Path) (cause : AccessFailure)
  deriving DecidableEq, Repr, Inhabited

/-- The wordings of a failure, each explained by the next one. -/
def InitFailure.chain : InitFailure → List String
  | alreadyThere => ["Configuration file already exists. Use --force to overwrite."]
  | notWritten path cause => ["Failed to write " ++ path.text, cause.message]

/-- Write a configuration file in a directory; one that is there is kept unless `force` is set. -/
def initSettings (d : Disk) (directory : Path) (force : Bool) : Except InitFailure Disk :=
  let p := configPath directory
  if d.isThere p ∧ !force then .error .alreadyThere
  else
    match d.write p (Text.encode defaultText.toList) with
    | .ok d => .ok d
    | .error cause => .error (.notWritten p cause)

end TestLocator.Config
