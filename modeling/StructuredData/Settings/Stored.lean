import StructuredData.Notice
import StructuredData.Settings.Basic

/-!
# Stored settings

The settings that the entries of a file give.  What is not of the right kind is passed over with a
notice, and the usual setting holds.
-/

namespace StructuredData

namespace Value

/-- The shape of a value, for a reader. -/
def shape : Value → String
  | bool _ => "bool"
  | int _ => "int"
  | float _ => "float"
  | text _ => "str"
  | list _ => "list"
  | object _ => "dict"
  | _ => "scalar"

end Value

namespace Settings

/-- A switch. -/
def flag (e : Fields) (key : String) (usual : Bool) : Logged Bool :=
  match given e key usual with
  | .bool b => return b
  | v => do
    Logged.tell (.badSetting key v usual)
    return usual

/-- A limit, a whole number of at least one. -/
def limit (e : Fields) (key : String) (usual : Limit) : Logged Limit :=
  match given e key usual.toValue with
  | .int n =>
    if n < 1 then do
      Logged.tell (.badSetting key (.int n) usual.toValue)
      return usual
    else return .whole n
  | v => do
    Logged.tell (.badSetting key v usual.toValue)
    return usual

/-- Whether a value is the entry of a schema with its type. -/
def isTyped (entry : Value) : Bool :=
  match entry.member "type" with
  | .ok v => v.truthy
  | .error _ => false

/-- The schemas of the whole site. -/
def siteSchemas (e : Fields) : Logged (List Value) :=
  match (given e "schemas" .null).orElse (.list []) with
  | .list entries => do
    Logged.tellAll ((entries.filter fun e => !isTyped e).map fun _ => .untypedSchema)
    return entries.filter isTyped
  | v => do
    Logged.tell (.badSchemas v)
    return []

/-- The entries of a settings file, none if it holds no mapping. -/
def entriesOf (v : Value) : Logged Fields :=
  match v.orElse (.object []) with
  | .object e => return e
  | v => do
    Logged.tell (.badSettings v.shape)
    return []

/-- The settings that the entries of a file give. -/
def ofStored (v : Value) : Logged Settings := do
  let e ← entriesOf v
  let schemas ← siteSchemas e
  let usual : Settings := {}
  let enabled ← flag e "enable_schemas" usual.enabled
  let debug ← flag e "debug" usual.debug
  let depth ← limit e "max_depth" usual.limits.depth
  let steps ← limit e "max_steps" usual.limits.steps
  return { enabled, debug, limits := { depth, steps }, schemas := .list schemas,
           typesDir := given e "custom_types_dir" .null }

end Settings

end StructuredData
