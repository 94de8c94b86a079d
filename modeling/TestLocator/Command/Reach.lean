import TestLocator.Command.Run

/-!
# What a run looks at

A run sees a disk as a value. Of a large file system it is enough to know the places that the run
looks at.

* `spotsAlong` — the places on the way that a path goes;
* `requestPaths`, `rowPaths`, **`wantedSpots`** — the places that a run looks at.
-/

namespace TestLocator.Command

open TestLocator.Batch TestLocator.Config TestLocator.Files

/-- The places on the way from a spot along the pieces of a path. -/
def spotsAlong (s : Spot) : List (List Char) → List Spot
  | [] => [s]
  | piece :: pieces =>
    let next := if piece = [] ∨ piece = ['.'] then s
      else if piece = ['.', '.'] then s.tail else piece :: s
    s :: spotsAlong next pieces

/-- The files of the rows of a batch. -/
def rowPaths (d : Disk) (r : BatchRequest) (root : Path) : List Path :=
  match (openInput d r.input).toOption with
  | none => []
  | some stream =>
    match readRows stream r.input with
    | .error _ => []
    | .ok rows => rows.filterMap fun row => row.toOption.bind fun row => (row.resolvePath root).toOption

/-- The paths that a request is about. -/
def requestPaths (d : Disk) (settings : Settings) : Request → List Path
  | .locate r => [r.file]
  | .init _ => [configPath ⟨"."⟩]
  | .batch r =>
    r.input :: r.output ::
      match r.projectRoot <|> settings.projectRoot with
      | none => []
      | some root => root :: rowPaths d r root

/-- The places that a run looks at, as far as the disk tells already: knowing more of it shows more
of them. -/
def wantedSpots (d : Disk) (i : Invocation) : List Spot :=
  let configPaths := (d.workingPath.ancestors searchDepth).map configPath
  let paths := configPaths ++ requestPaths d (loadSettings d d.workingPath) i.request
  (paths.flatMap fun p => spotsAlong (d.origin p) (Path.pieces p.text.toList)).eraseDups

end TestLocator.Command
