import TestLocator.Files.View

/-!
# Files in memory

Files are given one by one; directories are whatever stands above a file.

* `MemoryFiles`, `MemoryFiles.insert`, `MemoryFiles.insertAll`, `MemoryFiles.find?`;
* `MemoryFiles.isDirectory`, `MemoryFiles.isThere`, `MemoryFiles.read`;
* `MemoryFiles.view`.
-/

namespace TestLocator.Files

/-- Files with their texts, the latest first. -/
structure MemoryFiles where
  entries : List (Path × String) := []
  deriving Inhabited

namespace MemoryFiles

/-- Put a text at a path, in the place of what was there under any spelling. -/
def insert (m : MemoryFiles) (p : Path) (text : String) : MemoryFiles :=
  ⟨(p, text) :: m.entries.filter fun e => !e.1.same p⟩

/-- Put some texts at paths, one after the other. -/
def insertAll (m : MemoryFiles) (files : List (Path × String)) : MemoryFiles :=
  files.foldl (fun m e => m.insert e.1 e.2) m

/-- The text at a path. -/
def find? (m : MemoryFiles) (p : Path) : Option String :=
  (m.entries.find? fun e => e.1.same p).map (·.2)

/-- Whether a path stands above some file. -/
def isDirectory (m : MemoryFiles) (p : Path) : Bool :=
  m.entries.any fun e => !e.1.same p && e.1.startsWith p

/-- Whether there is a file or a directory at a path. -/
def isThere (m : MemoryFiles) (p : Path) : Bool := (m.find? p).isSome || m.isDirectory p

/-- Read the file at a path. -/
def read (m : MemoryFiles) (p : Path) : Except AccessFailure String :=
  match m.find? p with
  | some text => .ok text
  | none => .error ⟨.notFound, p.text ++ " not in memory file system"⟩

/-- The files as a search sees them. -/
def view (m : MemoryFiles) : FileView := ⟨m.read, m.isThere, m.isDirectory⟩

end MemoryFiles

end TestLocator.Files
