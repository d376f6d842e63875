import ReporterBlocks.Command.Run

/-!
# The program

Looks at the files that the command line names, runs, and puts the output out.
-/

namespace ReporterBlocks

/-- Why a file could not be read, by the code of the operating system. -/
def FileFault.ofError : IO.Error → FileFault
  | .noFileOrDirectory .. => .missing
  | .inappropriateType _ code _ => if code = 21 then .isFolder else .notFolder
  | .permissionDenied .. => .denied
  | _ => .missing

/-- What stands at a path. What is in a folder but cannot be looked at is left out. -/
partial def FileTree.snapshot (path : String) : IO (Except FileFault FileTree) := do
  let bytes ← (IO.FS.readBinFile path).toBaseIO
  match bytes.mapError FileFault.ofError with
  | .ok bytes => pure (.ok (.file bytes))
  | .error .isFolder =>
    let folder ← IO.FS.realPath path
    let mut entries : List (String × FileTree) := []
    for entry in ← folder.readDir do
      match ← snapshot (path ++ "/" ++ entry.fileName) with
      | .ok t => entries := entries ++ [(entry.fileName, t)]
      | .error _ => pure ()
    pure (.ok (.folder entries))
  | .error f => pure (.error f)

namespace Command

/-- Runs with the words of the command line; the answer is the exit code. -/
def execute (words : List String) : IO UInt32 := do
  let paths := match Arguments.read words with
    | .ok a => a.paths
    | .error _ => []
  let found ← paths.mapM fun path => do pure (path, ← FileTree.snapshot path)
  let terminal ← IO.getEnv "TERM"
  let noColor ← IO.getEnv "NO_COLOR"
  let around : Surroundings :=
    { look := fun path => (found.lookup path).getD (.error .missing)
      logSpec := ← IO.getEnv "RUST_LOG"
      terminal := if noColor.isSome then none else terminal }
  let out := run around words
  (← IO.getStderr).putStr out.stderr
  (← IO.getStdout).putStr out.stdout
  pure (UInt32.ofNat out.exit)

end Command

end ReporterBlocks

def main (words : List String) : IO UInt32 := ReporterBlocks.Command.execute words
