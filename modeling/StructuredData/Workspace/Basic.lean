import StructuredData.Assoc
import StructuredData.Text.Blank

/-!
# Workspaces

The text files that a site keeps its settings and its content in.  A place is the list of names on
the way to it from the root; a path is a text that leads to a place, from the root or from the
directory in which work is done.
-/

namespace StructuredData

/-- The names on the way from the root. -/
abbrev Place := List String

/-- The files within reach. -/
structure Workspace where
  /-- The directory in which work is done. -/
  here : Place
  /-- The texts of the files; the directories on the way to them exist. -/
  files : List (Place × String) := []
  /-- Directories that may hold no files. -/
  directories : List Place := []
  deriving Inhabited

namespace Workspace

/-- What a path leads to. -/
inductive Target where
  | file (p : Place)
  | directory (p : Place)
  deriving Repr, DecidableEq

/-- Why a path leads nowhere. -/
inductive Obstacle where
  /-- There is nothing under one of its names. -/
  | nothing
  /-- It goes on behind a file. -/
  | file
  deriving Repr, DecidableEq

/-! ## Paths -/

/-- Whether a path starts at the root. -/
def isAbsolute (path : String) : Bool := path.toList.head? == some '/'

/-- The names in a path. -/
def names (path : String) : List String := Text.cut '/' path

/-- A path that is taken from a directory. -/
def join (directory path : String) : String :=
  if isAbsolute path || directory = "" then path
  else if directory.toList.getLast? = some '/' then directory ++ path
  else directory ++ "/" ++ path

/-- Whether a name in a path leads nowhere else. -/
def isIdle (name : String) : Bool := name = "" || name = "."

/-- A path without the names that lead nowhere else. -/
def tidy (path : String) : String :=
  (if isAbsolute path then "/" else "") ++ "/".intercalate ((names path).filter (!isIdle ·))

/-- The path of a place. -/
def pathOf (p : Place) : String := "/" ++ "/".intercalate p

/-- The place that a path names, from a directory. -/
def placeOf (directory : Place) (path : String) : Place :=
  (names path).foldl
    (fun p name => if isIdle name then p else if name = ".." then p.dropLast else p ++ [name])
    (if isAbsolute path then [] else directory)

/-! ## Looking things up -/

/-- Whether a place is a directory. -/
def isDirectory (w : Workspace) (p : Place) : Bool :=
  (w.here :: (w.directories ++ w.files.map fun e => e.1.dropLast)).any fun d => p.isPrefixOf d

/-- Goes along names from a directory. -/
def walk (w : Workspace) (p : Place) : List String → Except Obstacle Target
  | [] => .ok (.directory p)
  | name :: rest =>
    if isIdle name then walk w p rest
    else if name = ".." then walk w p.dropLast rest
    else if w.isDirectory (p ++ [name]) then walk w (p ++ [name]) rest
    else if Assoc.contains (p ++ [name]) w.files then
      if rest.isEmpty then .ok (.file (p ++ [name])) else .error .file
    else .error .nothing

/-- What a path leads to, or why it leads nowhere. -/
def target (w : Workspace) (path : String) : Except Obstacle Target :=
  if path = "" then .error .nothing
  else w.walk (if isAbsolute path then [] else w.here) (names path)

/-- The text of the file that a path leads to. -/
def text? (w : Workspace) (path : String) : Option String :=
  match w.target path with
  | .ok (.file p) => w.files.lookup p
  | _ => none

/-- The names of the files in a directory, in order. -/
def fileNames (w : Workspace) (p : Place) : List String :=
  let names := w.files.filterMap fun e => if e.1.dropLast = p then e.1.getLast? else none
  names.mergeSort fun a b => !(b < a)

/-- The files whose texts differ from those in an earlier workspace. -/
def changes (w earlier : Workspace) : List (Place × String) :=
  w.files.filter fun e => !(earlier.files.lookup e.1 == some e.2)

/-- The workspace with a text in a file. -/
def write (w : Workspace) (p : Place) (text : String) : Workspace :=
  { w with files := Assoc.set p text w.files }

end Workspace

end StructuredData
