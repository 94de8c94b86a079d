import TestLocator.Batch.Descriptor
import TestLocator.Files.Path
import TestLocator.Locating.Search

/-!
# Rows

* `SmellRow` — a row of the input: a repository, a file in it, and a position;
* `SmellRow.resolvePath`, `SmellRow.targetLine`;
* `OutputRow` — a row of the output, and the rows for matches and failures.
-/

namespace TestLocator.Batch

open TestLocator.Files TestLocator.Locating TestLocator.Text

/-- A row of the input. -/
structure SmellRow where
  repository : Option String := none
  file : Option String := none
  lines : Option String := none
  deriving DecidableEq, Repr, Inhabited

/-- A value without blanks around it, if anything is left. -/
def usable? (value : Option String) : Option (List Char) :=
  (value.map fun s => trim s.toList).filter (!·.isEmpty)

/-- The wording for a field that is not there. -/
def missingField (name : String) : Failure := .malformedInput s!"missing \"{name}\" field"

/-- The wording for a repository that has no name. -/
def invalidRepository (repository : List Char) : Failure :=
  .malformedInput ("invalid repository " ++ quote (String.ofList repository))

/-- The last part of a repository's name, slashes at its end left aside. -/
def shortName (repository : List Char) : List Char :=
  ((dropEndWhile (· = '/') repository).reverse.takeWhile (· ≠ '/')).reverse

/-- A path in a repository without the slashes, of either kind, in front. -/
def fragment (file : List Char) : List Char := file.dropWhile fun c => c = '/' ∨ c = '\\'

namespace SmellRow

/-- The file of a row: below the directory of its repository. -/
def resolvePath (r : SmellRow) (root : Path) : Except Failure Path :=
  match usable? r.repository with
  | none => .error (missingField "Repository")
  | some repository =>
    match usable? r.file with
    | none => .error (missingField "File")
    | some file =>
      match shortName repository with
      | [] => .error (invalidRepository repository)
      | c :: cs =>
        .ok ((root.join (String.ofList (c :: cs))).join (String.ofList (fragment file)))

/-- The line of a row. -/
def targetLine (r : SmellRow) : Except Failure Nat := Batch.targetLine (r.lines.getD "")

end SmellRow

/-- A row of the output. -/
structure OutputRow where
  filename : String
  test : String
  range : String
  deriving DecidableEq, Repr, Inhabited

/-- What stands for the name of a file that is not known. -/
def invalidFilePath : String := "Invalid file path"

namespace OutputRow

/-- The row for a match. -/
def matched (path : Path) (b : TestBlock) : OutputRow := ⟨path.text, b.text, b.rangeLabel⟩

/-- The row for a search that has failed. -/
def failed (path : Path) (e : Failure) : OutputRow := ⟨path.text, e.message, ""⟩

/-- The row for a row that could not be understood. -/
def malformed (path : Option Path) (e : Failure) : OutputRow :=
  ⟨match path with
    | some p => p.text
    | none => invalidFilePath, "Error: " ++ e.message, ""⟩

end OutputRow

end TestLocator.Batch
