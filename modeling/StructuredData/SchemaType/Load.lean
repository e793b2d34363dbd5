import StructuredData.Notice
import StructuredData.SchemaType.Declared
import StructuredData.StandIn.Notation

/-!
# Loading types

The types that a site declares stand in the files of a directory.
-/

namespace StructuredData.TypeFile

/-- Whether a file with a name is read. -/
def isTypeFileName (name : String) : Bool :=
  ".py".toList.isSuffixOf name.toList && name.toList.head? != some '_'

/-- The types in a text. -/
def typesOfText (path text : String) : List SchemaType × Bool :=
  match Workspace.data path text with
  | .ok v => (read v).types
  | .error _ => ([], false)

/-- The types in the files of a directory. -/
def loadFiles (w : Workspace) (path : String) (p : Place) :
    List String → Logged (List SchemaType)
  | [] => return []
  | name :: rest => do
    let path' := Workspace.tidy (Workspace.join path name)
    let (types, complete) := typesOfText path' ((w.files.lookup (p ++ [name])).getD "")
    if !complete then Logged.tell (.brokenTypes path')
    return types ++ (← loadFiles w path p rest)

/-- The types that the files in a directory of a site declare; there need be no such directory. -/
def load (w : Workspace) (site : String) : Value → Logged (List SchemaType)
  | .text directory => do
    let path := Workspace.join site directory
    match w.target path with
    | .ok (.directory p) => loadFiles w path p ((w.fileNames p).filter isTypeFileName)
    | _ => return []
  | _ => throw .badPath

end StructuredData.TypeFile
