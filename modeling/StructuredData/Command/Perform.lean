import StructuredData.Command.Arguments
import StructuredData.Command.Console
import StructuredData.Document.Render
import StructuredData.Document.Script
import StructuredData.Registry.Site
import StructuredData.Settings.Initial
import StructuredData.StandIn.Slugify
import StructuredData.Template.Variables

/-!
# Performing tasks

Each task reads the settings and the content it needs, and prints what it was asked for.
-/

namespace StructuredData.Command

open Run

/-! ## What tasks work on -/

/-- The mapping in a data file; what does not count as given is an empty one. -/
def mapping (w : Workspace) (path : String) : Run Value := do
  let v ← ofExcept (Workspace.data path ((w.text? path).getD ""))
  match v.orElse (.object []) with
  | .object entries => return .object entries
  | _ => throw (.usage (some ("Error: Invalid value: " ++ path ++ " does not contain a mapping")))

/-- The content in a file, none if there is no file. -/
def content (w : Workspace) (path : Option String) : Run Source := do
  let v ← match path with
    | some path => mapping w path
    | none => pure (.object [])
  return { content := ← ofLogged (Content.read v) }

/-- A site in use. -/
structure Site where
  settings : Settings
  source : Source
  registry : Registry

/-- The site in a directory, with the content in a file. -/
def site (w : Workspace) (directory : String) (path : Option String) : Run Site := do
  let settings ← ofLogged (Settings.load w directory)
  let source ← content w path
  let registry ← ofLogged (Registry.ofSite w directory settings.typesDir source.sells)
  return { settings, source, registry }

/-- The page that a file describes. -/
def readPage (w : Workspace) (path : String) : Run Page := do
  match Page.read (← mapping w path) with
  | .ok page => return page
  | .error f =>
    if f.category = .badValue then
      throw (.usage (f.message.map fun text => "Error: Invalid value for --page: " ++ text))
    else throw (.fault f)

/-! ## Output -/

/-- Prints the document of a page, as bare JSON or as a script element. -/
def render (w : Workspace) (s : Site) (pagePath : String) (json : Bool) : Run Unit := do
  let page ← readPage w pagePath
  ofLogged (Logged.tell (.rendering page.kind.name page.url))
  let doc ← ofLogged (Document.ofPage s.settings s.registry s.source page)
  let doc := doc.getD .null
  let debug := s.settings.debug
  let text ← ofExcept (if json then Document.json debug doc else Document.script debug doc)
  match text with
  | some text => print text
  | none => remark "No schemas render on this page."

/-- A text in a column of a width. -/
def column (width : Nat) (s : String) : String := String.ofList (s.toList.rightpad width ' ')

/-- Values with commas between them, which have to be texts. -/
def commaList (items : List Value) : Except Fault String := do
  let texts ← items.mapM fun item =>
    match item with
    | .text s => .ok s
    | _ => .error .mismatched
  return ", ".intercalate texts

/-- The line for a type. -/
def typeLine (c : Catalog) (e : Scalar × SchemaType) : Except Fault String := do
  let d ← c.schemaOf e.1 e.2
  return " ".intercalate [column 18 e.1.plainText, column 8 (toString d.fields.length),
    column 30 (← commaList d.showOn.rules), e.2.docsUrl.toText]

/-- Prints the lines for types. -/
def printTypes (c : Catalog) : List (Scalar × SchemaType) → Run Unit
  | [] => return ()
  | e :: rest => do
    print (← ofExcept (typeLine c e))
    printTypes c rest

/-- Prints a table of the registered types. -/
def listTypes (c : Catalog) : Run Unit := do
  let _ ← ofExcept c.listing
  print (" ".intercalate [column 18 "Type", column 8 "Fields", column 30 "Show on", "Docs"])
  print (String.ofList (List.replicate 90 '-'))
  printTypes c c.types
  print ("\n" ++ toString c.types.length ++ " types total.")

/-- Prints the rules to choose from, in groups. -/
def listRules (s : Source) (consider : RuleOptions.Consider) : Run Unit := do
  let groups ← ofExcept (RuleOptions.groups s consider)
  printAll (groups.flatMap fun (_, g) =>
    (g.label ++ ":") :: g.rules.map fun (rule, label) =>
      "  " ++ column 40 rule.plainText ++ " " ++ label.toText)

/-- Prints the placeholders to choose from. -/
def listVariables (s : Site) (json : Bool) : Run Unit := do
  let vars ← ofExcept (Variables.list s.source s.registry.catalog)
  if json then print (Json.print { indent := some 2, ascii := true } (.object vars))
  else printAll (vars.map fun (name, label) => column 36 name.plainText ++ " " ++ label.toText)

/-- Prints how a site is set up. -/
def status (settings : Settings) (c : Catalog) : Run Unit := do
  let count := (settings.schemas.items.toOption.getD []).length
  let state := if settings.enabled then "enabled" else "disabled"
  let set := if count = 0 then "built-in defaults" else toString count ++ " configured"
  print ("rankgraph vdev | Schemas: " ++ state ++ " | Set: " ++ set)
  print ("Types: " ++ toString c.names.length ++ " registered (" ++
    (← ofExcept (commaList (c.names.map .scalar))) ++ ")")

/-- Writes initial settings into a directory. -/
def writeSettings (w : Workspace) (directory : String) : Run Workspace := do
  let path := Workspace.join directory Settings.initialName
  match w.target directory with
  | .ok (.directory p) =>
    print ("Created " ++ path)
    return w.write (p ++ [Settings.initialName]) Settings.initialText
  | .ok (.file _) | .error .file => throw (.fault (.notADirectory path))
  | .error .nothing => throw (.fault (.noDirectory path))

/-! ## Runs -/

/-- Performs a task; the workspace is the one after it. -/
def perform (w : Workspace) : Task → Run Workspace
  | .render page path json directory => do
    render w (← site w directory (some path)) page json
    return w
  | .listTypes path directory => do
    listTypes (← site w directory path).registry.catalog
    return w
  | .listRules consider path => do
    listRules (← content w path) consider
    return w
  | .listVariables path json directory => do
    listVariables (← site w directory path) json
    return w
  | .init directory => writeSettings w directory
  | .status directory => do
    let settings ← ofLogged (Settings.load w directory)
    let registry ← ofLogged (Registry.ofSite w directory settings.typesDir false)
    status settings registry.catalog
    return w

/-- How a run went: what it wrote, and the workspace after it or why it ended early. -/
structure Outcome where
  console : Console
  result : Except Failure Workspace

/-- The exit code of a run. -/
def Outcome.exitCode (o : Outcome) : Nat :=
  match o.result with
  | .ok _ => 0
  | .error f => f.exitCode

/-- Runs a command line. -/
def run (w : Workspace) (args : List String) : Outcome :=
  let act : Run Workspace := match read w args with
    | some task => perform w task
    | none => throw (.usage none)
  let (result, console) := StateT.run (ExceptT.run act) {}
  { console, result }

end StructuredData.Command
