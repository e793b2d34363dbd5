import StructuredData.Field.Basic
import StructuredData.Value.Prune

/-!
# Default values

The values that a schema has when none are stored follow its field tree: each emitted field has its
default, and a group has the defaults of those sub-fields that fit its type.
-/

namespace StructuredData.Field

/-- The type of a group: the first default that counts among its sub-fields named for the type,
null if there is none. -/
def groupType (children : List Field) : Value :=
  ((children.find? fun f => f.id.isText "@type" && f.defaultValue.truthy).map
    (·.defaultValue)).getD .null

/-- Whether a sub-field is meant for a group of a type. -/
def fits (type : Value) (f : Field) : Bool :=
  !type.truthy || f.variant.isNull || f.variant.equals type

/-- The value of a group with given entries: nothing if only its type is there, and a list if the
group may be repeated. -/
def groupValue (cloneable : Bool) (entries : Fields) : Value :=
  if (Value.object entries).isTypeStub then .object []
  else if cloneable then .list [.object entries]
  else .object entries

mutual

/-- The default value of a field. -/
def initial : Field → Except Fault Value
  | { kind, defaultValue, cloneable, children, .. } =>
    if kind = .group then do
      let pairs ← initialPairs (groupType children) children
      return groupValue cloneable.truthy (Assoc.ofPairs pairs)
    else if defaultValue.isNull then .ok ""
    else .ok defaultValue

/-- The ids and default values of the emitted fields that fit a type, in order. -/
def initialPairs (type : Value) : List Field → Except Fault (List (Scalar × Value))
  | [] => .ok []
  | f :: rest =>
    if f.isEmitted && f.fits type then do
      let v ← initial f
      let key ← f.id.key
      return (key, v) :: (← initialPairs type rest)
    else initialPairs type rest

end

/-- The default values of the fields of a schema, which need ids that can be keys. -/
def defaults (fields : List Field) : Except Fault Fields :=
  (initialPairs .null fields).map Assoc.ofPairs

end StructuredData.Field
