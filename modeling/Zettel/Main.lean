import Zettel.CommandLine.Run

/-!
# The program

Runs the command line on this machine. Results go to the standard output, and what is wrong with the
query or the run to the standard error stream.
-/

namespace Zettel.CommandLine

/-- Starts logging: a log directory is created. -/
def startLogging (config : Logging.Config) : IO (Except Logging.StartError Unit) := do
  match config.dir with
  | none => return .ok ()
  | some dir =>
    try
      IO.FS.createDirAll dir
      return .ok ()
    catch e => return .error (.createDir dir (toString e))

/-- What the file at a path holds. -/
def fileAt (path : String) : IO FileContent := do
  match ← (IO.FS.Handle.mk path .read).toBaseIO with
  | .error _ => return .absent
  | .ok handle =>
    match ← handle.readToEnd.toBaseIO with
    | .error _ => return .unreadable
    | .ok s => return .text s

/-- This machine. -/
def thisMachine : Machine IO where
  currentDir := return (← IO.currentDir).toString
  startLogging := startLogging
  fileAt := fileAt

/-- Shows what a run came to. -/
def Outcome.report : Outcome → IO Unit
  | usage e => IO.eprintln ("error: " ++ e.message)
  | failed f => IO.eprintln ("Error: " ++ f.message)
  | aborted =>
    IO.eprintln "user-provided comparison function does not correctly implement a total order"
  | done text warning => do
    if let some w := warning then IO.eprintln ("warning: " ++ w.message)
    IO.print text

end Zettel.CommandLine

/-- Runs the command line. -/
def main (args : List String) : IO UInt32 := do
  let outcome ← Zettel.CommandLine.run Zettel.CommandLine.thisMachine args
  outcome.report
  return outcome.exitCode.toUInt32
