import TestLocator.Files.View
import TestLocator.Text.Bytes

/-!
# Disks

A tree of directories and files as a value, with a working directory.

* `Spot`, `Entry`, `Disk` — places and what is there;
* `Disk.resolve`, `Disk.resolveNew` — the spot that a path means, and the one where it would put a
  file;
* `Disk.read`, `Disk.readText`, `Disk.write` — files;
* `Disk.view`, `Disk.workingPath`.
-/

namespace TestLocator.Files

open TestLocator.Text

/-- A place on a disk: the names from it up to the root. -/
abbrev Spot := List (List Char)

/-- What is at a place. -/
inductive Entry where
  | file (content : Bytes)
  | directory
  deriving DecidableEq, Repr, Inhabited

/-- A tree of directories and files. The root is always there. -/
structure Disk where
  entries : List (Spot × Entry) := []
  /-- The working directory. -/
  here : Spot := []
  deriving DecidableEq, Repr, Inhabited

/-- Nothing is there. -/
def noSuchFile : AccessFailure := ⟨.notFound, "No such file or directory (os error 2)"⟩

/-- Something is there that is no directory. -/
def notADirectory : AccessFailure := ⟨.notDirectory, "Not a directory (os error 20)"⟩

/-- A directory is there. -/
def isADirectory : AccessFailure := ⟨.isDirectory, "Is a directory (os error 21)"⟩

/-- A name is too long. -/
def nameTooLong : AccessFailure := ⟨.other, "File name too long (os error 36)"⟩

/-- A name holds a character that no name may hold. -/
def nameWithNul : AccessFailure := ⟨.other, "file name contained an unexpected NUL byte"⟩

/-- A file is no text. -/
def notText : AccessFailure := ⟨.invalidData, "stream did not contain valid UTF-8"⟩

/-- A name has at most so many bytes. -/
def maxNameLength : Nat := 255

/-- A path has fewer bytes than this. -/
def maxPathLength : Nat := 4096

namespace Disk

/-- What is at a spot. -/
def entry? (d : Disk) (s : Spot) : Option Entry := if s = [] then some .directory else d.entries.lookup s

/-- Put something at a spot. -/
def put (d : Disk) (s : Spot) (e : Entry) : Disk :=
  { d with entries := (s, e) :: d.entries.filter fun x => x.1 ≠ s }

/-- Follow the pieces of a path from a spot. -/
def follow (d : Disk) (s : Spot) : List (List Char) → Except AccessFailure Spot
  | [] => if (d.entry? s).isSome then .ok s else .error noSuchFile
  | piece :: rest =>
    match d.entry? s with
    | none => .error noSuchFile
    | some (.file _) => .error notADirectory
    | some .directory =>
      if piece = [] ∨ piece = ['.'] then d.follow s rest
      else if piece = ['.', '.'] then d.follow s.tail rest
      else if maxNameLength < byteLength piece then .error nameTooLong
      else d.follow (piece :: s) rest

/-- What is wrong with a path whatever is on the disk. -/
def pathFault? (p : Path) : Option AccessFailure :=
  let cs := p.text.toList
  if cs.contains '\x00' then some nameWithNul
  else if cs.isEmpty then some noSuchFile
  else if maxPathLength ≤ byteLength cs then some nameTooLong
  else none

/-- The spot where a path starts. -/
def origin (d : Disk) (p : Path) : Spot := if p.isAbsolute then [] else d.here

/-- The spot that a path means. -/
def resolve (d : Disk) (p : Path) : Except AccessFailure Spot :=
  match pathFault? p with
  | some e => .error e
  | none => d.follow (d.origin p) (Path.pieces p.text.toList)

/-- The pieces of a path up to its last one, and whether slashes follow that one. -/
def splitLast (pieces : List (List Char)) : List (List Char) × List Char × Bool :=
  let kept := (pieces.reverse.dropWhile (·.isEmpty)).reverse
  (kept.dropLast, kept.getLast?.getD [], kept.length < pieces.length)

/-- The spot where a path would put a file: its directory must be there, and it must end in a name
that no directory has. -/
def resolveNew (d : Disk) (p : Path) : Except AccessFailure Spot :=
  match pathFault? p with
  | some e => .error e
  | none =>
    let (above, last, slashes) := splitLast (Path.pieces p.text.toList)
    match d.follow (d.origin p) (above ++ [[]]) with
    | .error e => .error e
    | .ok s =>
      if slashes ∨ last = ['.'] ∨ last = ['.', '.'] then .error isADirectory
      else if maxNameLength < byteLength last then .error nameTooLong
      else if d.entry? (last :: s) = some .directory then .error isADirectory
      else .ok (last :: s)

/-- The content of a file. -/
def read (d : Disk) (p : Path) : Except AccessFailure Bytes :=
  match d.resolve p with
  | .error e => .error e
  | .ok s =>
    match d.entry? s with
    | some (.file content) => .ok content
    | some .directory => .error isADirectory
    | none => .error noSuchFile

/-- The content of a file as a text. -/
def readText (d : Disk) (p : Path) : Except AccessFailure String :=
  match d.read p with
  | .error e => .error e
  | .ok content =>
    match decode? content with
    | some cs => .ok (String.ofList cs)
    | none => .error notText

/-- Whether there is anything at a path. -/
def isThere (d : Disk) (p : Path) : Bool := (d.resolve p).toBool

/-- Whether there is a directory at a path. -/
def isDirectory (d : Disk) (p : Path) : Bool :=
  match d.resolve p with
  | .ok s => d.entry? s = some .directory
  | .error _ => false

/-- Write a file, in the place of the one that was there. -/
def write (d : Disk) (p : Path) (content : Bytes) : Except AccessFailure Disk :=
  (d.resolveNew p).map fun s => d.put s (.file content)

/-- The disk as a search sees it. -/
def view (d : Disk) : FileView := ⟨d.readText, d.isThere, d.isDirectory⟩

/-- The path of the working directory. -/
def workingPath (d : Disk) : Path :=
  ⟨"/" ++ "/".intercalate (d.here.reverse.map String.ofList)⟩

/-- Make the directories above a spot. -/
def makeAbove (d : Disk) : Spot → Disk
  | [] => d
  | _ :: above =>
    let d := d.makeAbove above
    if (d.entry? above).isSome then d else d.put above .directory

/-- Put something at a spot with the directories above it. -/
def install (d : Disk) (s : Spot) (e : Entry) : Disk := (d.makeAbove s).put s e

/-- The spot of a path that is taken as it is written, below the working directory. -/
def spotOf (d : Disk) (p : Path) : Spot :=
  (p.components.filterMap fun c => match c with
    | .normal name => some name
    | _ => none).reverse ++ d.here

end Disk

end TestLocator.Files
