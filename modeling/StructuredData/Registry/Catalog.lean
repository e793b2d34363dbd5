import StructuredData.Field.Insert
import StructuredData.Notice
import StructuredData.SchemaType.Basic

/-!
# The catalog of schema types

Types are registered under names before the catalog is read for the first time.  A site may also
extend the fields of a type, registered or not.  A name is any value that can be a key.
-/

namespace StructuredData

/-- Makes a list of fields of another one. -/
abbrev FieldExtension := List Field → List Field

/-- The schema types of a site. -/
structure Catalog where
  types : List (Scalar × SchemaType) := []
  /-- The extensions of the fields of a type, in the order in which they were added. -/
  extensions : List (Scalar × List FieldExtension) := []
  /-- Whether nothing may be registered any more. -/
  frozen : Bool := false
  deriving Inhabited

namespace Catalog

/-! ## Registering -/

/-- The catalog, closed for registrations. -/
def freeze (c : Catalog) : Catalog := { c with frozen := true }

/-- Refuses a registration if the catalog is frozen. -/
def checkOpen (c : Catalog) (attempt : Registration) : Except Fault Unit :=
  if c.frozen then .error (.frozen attempt) else .ok ()

theorem checkOpen_of_frozen {c : Catalog} (h : c.frozen = true) (attempt : Registration) :
    c.checkOpen attempt = .error (.frozen attempt) := by
  simp [checkOpen, h]

theorem checkOpen_of_open {c : Catalog} (h : c.frozen = false) (attempt : Registration) :
    c.checkOpen attempt = .ok () := by
  simp [checkOpen, h]

/-- Registers a type under a name, in place of one that has it. -/
def register (c : Catalog) (name : Value) (t : SchemaType) : Logged Catalog := do
  c.checkOpen (.schemaType name.toText)
  let key ← name.key
  if Assoc.contains key c.types then Logged.tell (.replaced name.toText)
  return { c with types := Assoc.set key t c.types }

/-- Adds an extension of the fields of a type. -/
def extendFields (c : Catalog) (type : Value) (extension : FieldExtension) :
    Except Fault Catalog := do
  c.checkOpen (.fields type.toText)
  let key ← type.key
  let earlier := (c.extensions.lookup key).getD []
  return { c with extensions := Assoc.set key (earlier ++ [extension]) c.extensions }

/-! ## Reading -/

/-- The names of the types, in the order in which they were first registered. -/
def names (c : Catalog) : List Scalar := Assoc.keys c.types

/-- The type registered last under a name. -/
def type? (c : Catalog) (name : Value) : Except Fault (Option SchemaType) :=
  Value.lookupKey c.types name

/-- Whether a type is registered under a name. -/
def contains (c : Catalog) (name : Value) : Except Fault Bool :=
  name.key.map fun key => Assoc.contains key c.types

/-- The fields of a type, passed through the extensions for its name one after the other. -/
def extended (c : Catalog) (name : Scalar) (t : SchemaType) : Except Fault (List Field) :=
  t.fields.map fun fields =>
    ((c.extensions.lookup name).getD []).foldl (fun fields extend => extend fields) fields

/-- The fields of the type under a name, none if there is no such type. -/
def fields (c : Catalog) (name : Value) : Except Fault (List Field) := do
  let key ← name.key
  match c.types.lookup key with
  | some t => c.extended key t
  | none => return []

theorem type?_of_key (c : Catalog) {name : Value} {key : Scalar} (h : name.key = .ok key) :
    c.type? name = .ok (c.types.lookup key) := by
  rw [type?, Value.lookupKey, h]
  rfl

theorem fields_of_key (c : Catalog) {name : Value} {key : Scalar} (h : name.key = .ok key) :
    c.fields name =
      match c.types.lookup key with
      | some t => c.extended key t
      | none => .ok [] := by
  rw [fields, h]
  rfl

/-- The schema that a type stands for. -/
def schemaOf (c : Catalog) (name : Scalar) (t : SchemaType) : Except Fault Schema := do
  t.schema (← c.extended name t)

/-- The schema that the type under a name stands for. -/
def schema? (c : Catalog) (name : Value) : Except Fault (Option Schema) := do
  let key ← name.key
  match c.types.lookup key with
  | some t => return some (← c.schemaOf key t)
  | none => return none

theorem schema?_of_key (c : Catalog) {name : Value} {key : Scalar} (h : name.key = .ok key) :
    c.schema? name =
      match c.types.lookup key with
      | some t => c.schemaOf key t >>= fun d => .ok (some d)
      | none => .ok none := by
  rw [schema?, h]
  rfl

/-- The schemas that the types stand for, in the order of their names, each of which has a type. -/
def all (c : Catalog) : Except Fault (List Schema) := do
  return (← c.names.mapM fun name => c.schema? (.scalar name)).filterMap id

/-- A type as it is offered to those who set up schemas. -/
def offer (name : Scalar) (t : SchemaType) (title : Value) (fields : List Field) : Value :=
  .object [("type", .scalar name), ("title", title), ("docs_url", t.docsUrl),
    ("type_options", t.typeOptions), ("fields", .list (Field.toValues fields))]

/-- The types as they are offered to those who set up schemas. -/
def listing (c : Catalog) : Except Fault (List Value) :=
  c.names.mapM fun name => do
    match ← c.type? (.scalar name) with
    | some t =>
      let title ← t.title
      return offer name t title (← c.fields (.scalar name))
    | none => throw .notAnObject

end Catalog

end StructuredData
