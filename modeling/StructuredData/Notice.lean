import StructuredData.Value.Text

/-!
# Notices

What is worth telling about a computation that goes on: limits met, data passed over, extensions
that failed.  A notice is a fact; its wording is `Notice.text`.
-/

namespace StructuredData

/-- How serious a notice is. -/
inductive Notice.Level where
  | debug
  | warning
  | error
  deriving Repr, DecidableEq

/-- The things worth telling. -/
inductive Notice where
  /-- A placeholder was met again inside its own expansion. -/
  | cycle (token : String)
  /-- Placeholders are nested deeper than the limit. -/
  | tooDeep (limit : Int)
  /-- No steps are left for expanding placeholders. -/
  | outOfSteps (limit : Int)
  /-- Required fields of a node have come out empty. -/
  | requiredEmpty (type : Value) (ids : List String)
  /-- A visible schema is of a type that is not registered. -/
  | unregistered (title type : Value)
  /-- A date is not in standard form. -/
  | badDate (text : String)
  /-- A visibility veto failed. -/
  | vetoFailed
  /-- A context extender failed. -/
  | extenderFailed
  /-- A schema type is registered under a name that is taken. -/
  | replaced (type : String)
  /-- A page is being rendered. -/
  | rendering (kind : String) (url : Value)
  /-- A setting is not of the right kind. -/
  | badSetting (key : String) (given fallback : Value)
  /-- The stored schema set is no list. -/
  | badSchemas (given : Value)
  /-- An entry of the stored schema set has no type. -/
  | untypedSchema
  /-- The settings are no mapping. -/
  | badSettings (shape : String)
  /-- A file with schema types of the site cannot be loaded. -/
  | brokenTypes (path : String)

namespace Notice

/-- The level of a notice. -/
def level : Notice → Level
  | requiredEmpty .. | unregistered .. | replaced _ | rendering .. => .debug
  | vetoFailed | extenderFailed | brokenTypes _ => .error
  | _ => .warning

/-- The wording of a notice.  What an extension is called, and an entry without a type, are left
open. -/
def text : Notice → String
  | cycle token => "Placeholder cycle on '%" ++ token ++ "%'; leaving value unresolved"
  | tooDeep limit =>
    "Placeholder nesting deeper than " ++ toString limit ++ "; leaving value unresolved"
  | outOfSteps limit => "Placeholder step budget of " ++ toString limit ++ " exhausted"
  | requiredEmpty type ids =>
    "Schema " ++ type.toText ++ ": required fields rendered empty: " ++ ", ".intercalate ids
  | unregistered title type =>
    "Skipping schema '" ++ title.toText ++ "': type " ++ type.toText ++ " is not registered"
  | badDate s => "Ignoring unparseable date '" ++ s ++ "'"
  | vetoFailed => "Visibility veto %r raised an exception"
  | extenderFailed => "Context extender %r raised an exception"
  | replaced type => "Replacing schema type " ++ type
  | rendering kind url => "Rendering " ++ kind ++ " page " ++ url.toText
  | badSetting key given fallback =>
    "Invalid " ++ key ++ " '" ++ given.toText ++ "', falling back to " ++ fallback.toText
  | badSchemas given =>
    "Invalid schemas '" ++ given.toText ++ "', falling back to the built-in defaults"
  | untypedSchema => "Skipping schema entry without a type: %r"
  | badSettings shape => "Ignoring config: expected a mapping, got " ++ shape
  | brokenTypes path => "Failed to load custom schema type from " ++ path

/-- Whether a notice is a warning. -/
def isWarning (n : Notice) : Bool := n.level == .warning

end Notice

/-- The notices of a computation, in order. -/
abbrev Log := Array Notice

/-- A computation that may fail and keeps the notices it has given, also when it fails. -/
abbrev Logged (α : Type) := ExceptT Fault (StateM Log) α

namespace Logged

/-- Gives a notice. -/
def tell (n : Notice) : Logged Unit := modify fun log => log.push n

/-- Gives notices in order. -/
def tellAll (l : List Notice) : Logged Unit := modify fun log => log.appendList l

/-- Gives the result of a computation and its notices. -/
def run {α : Type} (act : Logged α) : Except Fault α × Log := StateT.run (ExceptT.run act) #[]

end Logged

end StructuredData
