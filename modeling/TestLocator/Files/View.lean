import TestLocator.Files.Path

/-!
# Views of files

What a search for tests needs to know of a file system, wherever the files are.

* `AccessKind`, `AccessFailure` — why a file cannot be used;
* `FileView` — reading files and asking what is there.
-/

namespace TestLocator.Files

/-- Why a file cannot be used. -/
inductive AccessKind where
  | notFound
  | notDirectory
  | isDirectory
  | invalidData
  | other
  deriving DecidableEq, Repr, Inhabited

/-- A failure with its wording. -/
structure AccessFailure where
  kind : AccessKind
  message : String
  deriving DecidableEq, Repr, Inhabited

/-- What a search needs to know of a file system. -/
structure FileView where
  /-- The text of a file. -/
  read : Path → Except AccessFailure String
  /-- Whether there is a file or a directory. -/
  isThere : Path → Bool
  /-- Whether there is a directory. -/
  isDirectory : Path → Bool

end TestLocator.Files
