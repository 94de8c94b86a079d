import TestLocator.Command.Reading

/-!
# Help

* `programName`, `versionText`;
* **`helpText`** — what is printed about a topic;
* `UsageFault.message` — what is wrong with a command line.
-/

namespace TestLocator.Command

/-- The name of the program. -/
def programName : String := "smellblock"

/-- What is printed about the version. -/
def versionText : String := programName ++ " 0.1.0\n"

/-- What the commands do, and the program as a whole. -/
def summary : Topic → String
  | .program => "Locate the test blocks that enclose code-smell positions in JavaScript test suites"
  | .locate => "Print the test declaration enclosing a line of a source file"
  | .batch => "Resolve every row of a smell dataset and write the located blocks as CSV"
  | .init => "Initialize a new .smellblock.toml configuration file"
  | .help => "Print this message or the help of the given subcommand(s)"

/-- How a command is called, after the name of the program. -/
def usage : Topic → String
  | .program => "[OPTIONS] <COMMAND>"
  | .locate => "locate [OPTIONS] <FILE> <LINE>"
  | .batch => "batch [OPTIONS] <INPUT> <OUTPUT>"
  | .init => "init [OPTIONS]"
  | .help => "help [COMMAND]..."

/-- A paragraph of help: a title, and entries with their explanations. -/
structure Section where
  title : String
  entries : List (String × String)
  deriving Repr, Inhabited

/-- A paragraph as a text, with the explanations in a column. -/
def Section.written (s : Section) : String :=
  let width := s.entries.foldl (fun w e => max w e.1.length) 0
  "\n" ++ s.title ++ ":\n" ++
    String.join (s.entries.map fun e =>
      "  " ++ e.1 ++ String.ofList (List.replicate (width - e.1.length) ' ') ++ "  " ++ e.2 ++ "\n")

/-- The entry for verbosity. -/
def verbosityEntry : String × String :=
  ("-v, --verbose...", "Increase verbosity level (can be repeated: -v, -vv, -vvv)")

/-- The entry for help. -/
def helpEntry : String × String := ("-h, --help", "Print help")

/-- The paragraphs about a topic. The value of the variable for the project root is told. -/
def sections (rootVariable : Option String) : Topic → List Section
  | .program => [
      ⟨"Commands", [
        ("locate", summary .locate),
        ("batch", summary .batch),
        ("init", summary .init),
        ("help", summary .help)]⟩,
      ⟨"Options", [verbosityEntry, helpEntry, ("-V, --version", "Print version")]⟩]
  | .locate => [
      ⟨"Arguments", [
        ("<FILE>", "JavaScript or TypeScript source file"),
        ("<LINE>", "1-indexed target line")]⟩,
      ⟨"Options", [
        ("-f, --format <FORMAT>",
          "Output format [default: text] [possible values: text, json]"),
        verbosityEntry,
        ("    --marker <MARKER>", "Token stripped from the source before parsing"),
        helpEntry]⟩]
  | .batch => [
      ⟨"Arguments", [
        ("<INPUT>", "Input CSV with Repository, File and Lines columns"),
        ("<OUTPUT>", "Output CSV")]⟩,
      ⟨"Options", [
        ("    --project-root <PROJECT_ROOT>",
          "Directory containing one checkout per repository [env: PROJECT_PATH=" ++
            rootVariable.getD "" ++ "]"),
        verbosityEntry,
        ("-j, --jobs <JOBS>", "Number of worker threads (0 = use all cores)"),
        ("    --no-parallel", "Process rows sequentially"),
        ("    --marker <MARKER>", "Token stripped from sources before parsing"),
        helpEntry]⟩]
  | .init => [
      ⟨"Options", [
        ("-f, --force", "Force overwrite existing config"),
        verbosityEntry,
        helpEntry]⟩]
  | .help => [
      ⟨"Arguments", [("[COMMAND]...", "Print help for the subcommand(s)")]⟩]

/-- What is printed about a topic. -/
def helpText (rootVariable : Option String) (topic : Topic) : String :=
  summary topic ++ "\n\nUsage: " ++ programName ++ " " ++ usage topic ++ "\n" ++
    String.join ((sections rootVariable topic).map Section.written)

/-- What is wrong with a command line. -/
def UsageFault.message : UsageFault → String
  | help _ | version => ""
  | nothingGiven | missingCommand => "a subcommand is required"
  | unknownCommand => "unrecognized subcommand"
  | unknownArgument => "unexpected argument"
  | unexpectedValue => "unexpected value for a flag"
  | invalidValue => "invalid or missing value"
  | invalidNumber => "invalid number"
  | repeated => "an argument cannot be used multiple times"
  | missingArgument => "a required argument was not provided"

end TestLocator.Command
