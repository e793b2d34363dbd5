import StructuredData.Settings.Stored
import StructuredData.StandIn.Notation

/-!
# Loading settings

The settings of a site stand in a file in its directory.
-/

namespace StructuredData.Settings

/-- The names of the file with the settings; of several files the first counts. -/
def fileNames : List String := ["rankgraph.yml", "rankgraph.yaml", ".rankgraph.yml"]

/-- What the settings file in a directory holds, null if there is none. -/
def stored (w : Workspace) (directory : String) : List String → Except Fault Value
  | [] => .ok .null
  | name :: rest =>
    let path := Workspace.join directory name
    match w.text? path with
    | some text => Workspace.data path text
    | none => stored w directory rest

/-- The settings of the site in a directory. -/
def load (w : Workspace) (directory : String) : Logged Settings := do
  ofStored (← stored w directory fileNames)

end StructuredData.Settings
