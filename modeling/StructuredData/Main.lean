import StructuredData.Command.Perform

/-!
# The command line

Reads the files within reach of a command line, runs it, and writes what it has to say.
-/

namespace StructuredData.Shell

/-- Adds the file under a path, if there is one that can be read. -/
def addFile (w : Workspace) (path : String) : IO Workspace := do
  try return w.write (Workspace.placeOf w.here path) (← IO.FS.readFile path)
  catch _ => return w

/-- The names in a directory, none if there is no such directory. -/
def listDirectory (path : String) : IO (Option (List String)) := do
  try
    let directory ← IO.FS.realPath path
    return some ((← directory.readDir).toList.map (·.fileName))
  catch _ => return none

/-- Adds a directory with the settings and the type files of the site in it. -/
def addSite (w : Workspace) (path : String) : IO Workspace := do
  if (← listDirectory path).isNone then return w
  let w := { w with directories := Workspace.placeOf w.here path :: w.directories }
  let w ← (Settings.fileNames.map (Workspace.join path)).foldlM addFile w
  match (Logged.run (Settings.load w path)).1.toOption.map Settings.typesDir with
  | some (.text typesDir) =>
    let typesPath := Workspace.join path typesDir
    let names := (← listDirectory typesPath).getD []
    ((names.filter TypeFile.isTypeFileName).map (Workspace.join typesPath)).foldlM addFile w
  | _ => return w

/-- The files within reach of a command line. -/
def gather (args : List String) : IO Workspace := do
  let here := (← IO.currentDir).toString
  let w : Workspace := { here := Workspace.placeOf [] here }
  let w ← (Command.paths args).foldlM addFile w
  (Command.paths args).foldlM addSite w

/-- What to say about a run that ended early. -/
def complaint : Command.Failure → String
  | .usage (some text) => text
  | .usage none => "Error: the arguments make no task"
  | .fault f => "Error: " ++ f.message.getD "the data cannot be processed"

end StructuredData.Shell

open StructuredData in
/-- Runs a command line. -/
def main (args : List String) : IO UInt32 := do
  let w ← Shell.gather args
  let outcome := Command.run w args
  for notice in outcome.console.log do
    if notice.level != .debug then IO.eprintln ("rankgraph: " ++ notice.text)
  IO.print outcome.console.output
  IO.eprint outcome.console.remarks
  match outcome.result with
  | .ok after =>
    for (place, text) in after.changes w do
      IO.FS.writeFile (Workspace.pathOf place) text
  | .error failure => IO.eprintln (Shell.complaint failure)
  return UInt32.ofNat outcome.exitCode
