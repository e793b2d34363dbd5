import StructuredData.Schema.Identity
import StructuredData.Template.Expand
import StructuredData.Value.Prune

/-!
# Nodes

The node of a schema is the object that is published for it: its values expanded, its types first,
and nothing empty in it.
-/

namespace StructuredData

/-- Expands the values of an object one after the other. -/
def expandFields (limits : Limits) (context : Value) : Fields → Expansion Fields
  | [] => return []
  | (k, v) :: rest => do
    let v ← v.expand limits context
    let rest ← expandFields limits context rest
    return (k, v) :: rest

/-- Makes a list of the values under a key, if they are stored as an object. -/
def listValues (key : Scalar) (fields : Fields) : Fields :=
  match fields.lookup key with
  | some (.object entries) => Assoc.set key (.list (Assoc.values entries)) fields
  | _ => fields

namespace Schema

/-- Makes lists of the repeated values that are stored under keys. -/
def flattenFields (d : Schema) (fields : Fields) : Except Fault Fields :=
  (d.fields.filter fun f => f.cloneable.truthy && f.flatten.truthy).foldlM
    (fun acc f => f.id.key.map fun key => listValues key acc) (listValues "sameAs" fields)

/-- The types of a node: its own and then those below it. -/
def nodeType (d : Schema) (fields : Fields) : Value :=
  let base := (((fields.get? "@type").getD .null).orElse d.type).orElse "Thing"
  match fields.get? "@sub_type" with
  | some (.list types) =>
    let given := types.filter Value.truthy
    if given.isEmpty then base else .list (base :: given)
  | _ => base

/-- The keys that are never published under their own name. -/
def internalKeys : List String := ["@type", "@sub_type", "schema_name", "_label"]

/-- The entries of a node before it is pruned. -/
def nodeFields (d : Schema) (expanded : Fields) : Except Fault Fields := do
  let fields ← d.flattenFields expanded
  return ("@type", d.nodeType fields) ::
    fields.filter fun e => !internalKeys.any fun key => Scalar.text key == e.1

/-- Whether a required field is in a node and has nothing in it. -/
def isRequiredEmpty (node : Fields) (f : Field) : Except Fault Bool :=
  if f.required.truthy then do
    match ← Value.lookupKey node f.id with
    | some v => return v.prune.isDropped
    | none => return false
  else .ok false

/-- The ids of the required fields that are in a node and have nothing in them, which have to be
texts. -/
def requiredEmpty (d : Schema) (node : Fields) : Except Fault (List String) := do
  (← d.fields.filterM (isRequiredEmpty node)).mapM fun f =>
    match f.id with
    | .text id => .ok id
    | _ => .error .mismatched

/-- The node of a schema in a context. -/
def node [Slugifier] (d : Schema) (limits : Limits) (context : Value) : Expansion Fields := do
  let fields ← d.nodeFields (← expandFields limits context (← d.fieldValues))
  let empty ← d.requiredEmpty fields
  unless empty.isEmpty do
    Expansion.tell (.requiredEmpty d.type empty)
  return Value.pruneFields fields

end Schema

end StructuredData
