import StructuredData.Rule.Options
import StructuredData.Workspace.Basic

/-!
# Arguments

A command line names a task and gives options for it.  An option with a value is written as one
argument with a mark in between, or as two; of several values for one option the last counts.
-/

namespace StructuredData.Command

/-- What can be done from the command line. -/
inductive Task where
  /-- Renders the document of a page. -/
  | render (page content : String) (json : Bool) (site : String)
  /-- Lists the registered types. -/
  | listTypes (content : Option String) (site : String)
  /-- Lists the rules to choose from. -/
  | listRules (consider : RuleOptions.Consider) (content : Option String)
  /-- Lists the placeholders to choose from. -/
  | listVariables (content : Option String) (json : Bool) (site : String)
  /-- Writes initial settings. -/
  | init (site : String)
  /-- Tells how a site is set up. -/
  | status (site : String)
  deriving Repr, DecidableEq

/-! ## Options -/

/-- The options given, with the values of those that take one. -/
abbrev Options := List (String × String)

/-- An argument up to its mark, and what follows the mark if there is one. -/
def splitArgument (arg : String) : String × Option String :=
  let cs := arg.toList
  (String.ofList (cs.takeWhile (· ≠ '=')),
    match cs.dropWhile (· ≠ '=') with
    | _ :: value => some (String.ofList value)
    | [] => none)

/-- Reads options, of which it is known whether they take a value; none if an argument is no
option, or a value is missing or not asked for. -/
def readOptions (known : List (String × Bool)) : List String → Option Options
  | [] => some []
  | "--" :: rest => if rest.isEmpty then some [] else none
  | arg :: rest =>
    match splitArgument arg with
    | (name, explicit) =>
      match known.lookup name, explicit, rest with
      | some true, some value, rest => (readOptions known rest).map ((name, value) :: ·)
      | some true, none, value :: rest => (readOptions known rest).map ((name, value) :: ·)
      | some false, none, rest => (readOptions known rest).map ((name, "") :: ·)
      | _, _, _ => none

/-- The value of an option. -/
def Options.value? (o : Options) (name : String) : Option String := o.reverse.lookup name

/-- Whether an option is given. -/
def Options.has (o : Options) (name : String) : Bool := (o.value? name).isSome

/-- The directory of the site, the one in which work is done unless another one is given. -/
def Options.site (w : Workspace) (o : Options) : String :=
  match o.value? "--project-dir" with
  | some path => if path = "" then Workspace.pathOf w.here else path
  | none => Workspace.pathOf w.here

/-- The path of a file that has to be there if it is given. -/
def Options.file? (w : Workspace) (o : Options) (name : String) : Option (Option String) :=
  match o.value? name with
  | some path => if (w.text? path).isSome then some (some path) else none
  | none => some none

/-- What the choice of rules is narrowed to. -/
def Options.consider? (o : Options) : Option RuleOptions.Consider :=
  match o.value? "--consider" with
  | none => some .everything
  | some "single" => some .single
  | some "archive" => some .archive
  | some _ => none

/-! ## Tasks -/

/-- The names of the tasks, with the options that each of them takes. -/
def knownOptions (name : String) : Option (List (String × Bool)) :=
  [("render",
      [("--page", true), ("--content", true), ("--json", false), ("--project-dir", true)]),
    ("list-types", [("--content", true), ("--project-dir", true)]),
    ("list-rules", [("--consider", true), ("--content", true)]),
    ("list-variables", [("--content", true), ("--json", false), ("--project-dir", true)]),
    ("init", [("--project-dir", true)]),
    ("status", [("--project-dir", true)])].lookup name

/-- The task with a name and options. -/
def task? (w : Workspace) (name : String) (o : Options) : Option Task := do
  let content ← o.file? w "--content"
  let site := o.site w
  match name with
  | "render" => return .render (← (← o.file? w "--page")) (← content) (o.has "--json") site
  | "list-types" => return .listTypes content site
  | "list-rules" => return .listRules (← o.consider?) content
  | "list-variables" => return .listVariables content (o.has "--json") site
  | "init" => return .init site
  | "status" => return .status site
  | _ => none

/-- The task that a command line asks for. -/
def readNamed (w : Workspace) : List String → Option Task
  | name :: args => do task? w name (← readOptions (← knownOptions name) args)
  | [] => none

/-- The task that a command line asks for; its name may follow a mark that ends options. -/
def read (w : Workspace) : List String → Option Task
  | "--" :: args => readNamed w args
  | args => readNamed w args

/-! ## Reach -/

/-- The paths that a command line may speak of: its arguments, their values, and the directory in
which work is done. -/
def paths (args : List String) : List String :=
  "." :: args.flatMap fun arg => arg :: (splitArgument arg).2.toList

end StructuredData.Command
