import StructuredData.Field.Defaults
import StructuredData.Rule.Basic

/-!
# Schemas

A schema is one instance of a schema type: where it is shown, the fields of its type, and the
values stored for them, if any are.
-/

namespace StructuredData

/-- An instance of a schema type. -/
structure Schema where
  title : Value := ""
  type : Value := ""
  showOn : RuleSet := {}
  notShowOn : RuleSet := {}
  fields : List Field := []
  /-- The stored values, null if the defaults of the fields hold. -/
  values : Value := .null
  deriving Inhabited

namespace Schema

/-- The values of a schema: the stored ones, else the defaults of its fields. -/
def effectiveValues (d : Schema) : Except Fault Value :=
  if d.values.isNull then (Field.defaults d.fields).map .object else .ok d.values

/-- The values that an entry stores for its fields: only an object counts. -/
def readValues : Value → Value
  | .object fields => .object fields
  | _ => .null

/-- The schema that a stored entry describes, with the fields of its type. -/
def read (stored : Value) (fields : List Field) : Except Fault Schema := do
  let title ← stored.member "title"
  let type := ((← stored.member "type").orElse title).orElse "Thing"
  let showOn ← RuleSet.read (← stored.member "show_on")
  let notShowOn ← RuleSet.read (← stored.member "not_show_on")
  let values := readValues (← stored.member "fields")
  return { title := title.orElse type, type, showOn, notShowOn, fields, values }

/-- The stored form of a schema. -/
def toValue (d : Schema) : Except Fault Value := do
  return .object [("title", d.title), ("type", d.type), ("show_on", d.showOn.toValue),
    ("not_show_on", d.notShowOn.toValue), ("fields", ← d.effectiveValues)]

end Schema

end StructuredData
