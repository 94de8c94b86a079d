import TestLocator.Command.Reach

/-!
# The program

The outer layer: it looks at the places that a run needs, runs the program on them as a value, and
carries out what has been changed.
-/

namespace TestLocator

open TestLocator.Command TestLocator.Files TestLocator.Text

/-- The text of a spot. -/
def spotText (s : Spot) : String := "/" ++ "/".intercalate (s.reverse.map String.ofList)

/-- What is really at a spot. -/
def lookAt (s : Spot) : IO (Option Entry) := do
  let place := (← IO.currentDir) / spotText s
  if ← place.isDir then return some .directory
  try
    let content ← IO.FS.readBinFile place
    return some (.file content.toList)
  catch _ => return none

/-- Learn what is at the places that a run looks at. -/
def learn (d : Disk) (i : Invocation) : IO Disk :=
  (wantedSpots d i).foldlM (fun d s => do
    match ← lookAt s with
    | some e => return d.put s e
    | none => return d) d

/-- Write the files that a run has changed. -/
def carryOut (before after : Disk) : IO Unit := do
  for (s, e) in after.entries do
    match e with
    | .directory => pure ()
    | .file content =>
      if before.entry? s ≠ some e then
        IO.FS.writeBinFile (spotText s) content.toByteArray

end TestLocator

open TestLocator TestLocator.Command TestLocator.Files in
def main (words : List String) : IO UInt32 := do
  let rootVariable ← IO.getEnv "PROJECT_PATH"
  let working ← IO.currentDir
  let d : Disk := { here := Disk.spotOf {} ⟨working.toString⟩ }
  let d ← match Invocation.ofWords rootVariable words with
    | .ok i => do learn (← learn d i) i
    | .error _ => pure d
  let ending := run d rootVariable words
  carryOut d ending.disk
  (← IO.getStdout).putStr ending.output
  (← IO.getStderr).putStr ending.complaint
  return UInt32.ofNat ending.code
