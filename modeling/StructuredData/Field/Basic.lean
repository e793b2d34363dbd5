import StructuredData.Value.Compare
import StructuredData.Value.Text

/-!
# Fields of a schema

A schema type offers a tree of fields.  A field has a default value, which is a template, and its
flags say whether it is filled without being asked for; a group has sub-fields of its own.  Of a
described field only its kind and its sub-fields are checked: the rest is kept as it is given.
-/

namespace StructuredData

/-- The kinds of fields. -/
inductive FieldKind where
  | scalar
  | group
  | hidden
  | title
  deriving Repr, DecidableEq, Inhabited

namespace FieldKind

/-- The name of a kind. -/
def name : FieldKind → String
  | scalar => "Scalar"
  | group => "Group"
  | hidden => "Hidden"
  | title => "Title"

/-- The kind with a name. -/
def ofName? (s : String) : Option FieldKind :=
  [scalar, group, hidden, title].find? fun k => k.name == s

theorem ofName?_name (k : FieldKind) : ofName? k.name = some k := by
  cases k <;> decide

end FieldKind

/-- A field of a schema type. -/
structure Field where
  id : Value
  kind : FieldKind := .scalar
  /-- The default value, null if there is none. -/
  defaultValue : Value := .null
  required : Value := false
  /-- Whether the field is filled though it is not required. -/
  visible : Value := false
  /-- Whether the field may be given several times. -/
  cloneable : Value := false
  /-- Whether repetitions stored under keys are published as a list. -/
  flatten : Value := false
  children : List Field := []
  /-- The type of the group for which this sub-field is meant, null if it is meant for all. -/
  variant : Value := .null
  label : Value := ""
  tooltip : Value := ""
  /-- The values to choose from, with their labels. -/
  options : Value := .null
  deriving Inhabited

namespace Field

/-- What says that a field is filled without being asked for, if it counts: what it is said to be,
required or else visible; a field without an id is not. -/
def emission (f : Field) : Value := if f.id.truthy then f.required.orElse f.visible else false

/-- Whether a field is filled without being asked for. -/
def isEmitted (f : Field) : Bool := f.emission.truthy

/-! ## Description of a field -/

mutual

/-- The description of a field as a value. -/
def toValue : Field → Value
  | { id, kind, defaultValue, required, visible, cloneable, flatten, children, variant, label,
      tooltip, options } =>
    let members : Fields := [("id", id), ("kind", .text kind.name),
      ("default_value", defaultValue), ("required", required), ("visible_by_default", visible),
      ("cloneable", cloneable), ("flatten", flatten), ("variant_tag", variant), ("label", label),
      ("tooltip", tooltip)]
    let choices : Fields := if options.truthy then [("options", options)] else []
    let parts : Fields := if kind = .group then [("sub_fields", .list (toValues children))] else []
    .object (members ++ choices ++ parts)

/-- The descriptions of several fields. -/
def toValues : List Field → List Value
  | [] => []
  | f :: rest => toValue f :: toValues rest

end

/-- A kind of field from its name. -/
def readKind : Value → Except Fault FieldKind
  | .text s =>
    match FieldKind.ofName? s with
    | some k => .ok k
    | none => .error .unknownFieldKind
  | _ => .error .unknownFieldKind

mutual

/-- Changes a field by the entries of a description. -/
def change (f : Field) : List (Scalar × Value) → Except Fault Field
  | [] => .ok f
  | (.text "id", v) :: rest => change { f with id := v } rest
  | (.text "kind", v) :: rest => do change { f with kind := ← readKind v } rest
  | (.text "default_value", v) :: rest => change { f with defaultValue := v } rest
  | (.text "required", v) :: rest => change { f with required := v } rest
  | (.text "visible_by_default", v) :: rest => change { f with visible := v } rest
  | (.text "cloneable", v) :: rest => change { f with cloneable := v } rest
  | (.text "flatten", v) :: rest => change { f with flatten := v } rest
  | (.text "sub_fields", v) :: rest => do change { f with children := ← readChildren v } rest
  | (.text "variant_tag", v) :: rest => change { f with variant := v } rest
  | (.text "label", v) :: rest => change { f with label := v } rest
  | (.text "tooltip", v) :: rest => change { f with tooltip := v } rest
  | (.text "options", v) :: rest => change { f with options := v } rest
  | (key, _) :: rest => do
    let _ ← change f rest
    .error (.unknownField key.plainText)

/-- The sub-fields that a value describes. -/
def readChildren : Value → Except Fault (List Field)
  | .list items => readItems items
  | .text "" | .object [] => .ok []
  | _ => .error .notIterable

/-- The fields that a list describes. -/
def readItems : List Value → Except Fault (List Field)
  | [] => .ok []
  | v :: rest => do return (← read v) :: (← readItems rest)

/-- The field that a value describes. -/
def read : Value → Except Fault Field
  | .object entries => do
    let f ← change { id := "" } entries
    if (Fields.get? entries "id").isSome then return f else .error (.missingField "id")
  | _ => .error .notARecord

end

end Field

end StructuredData
