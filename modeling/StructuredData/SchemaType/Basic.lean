import StructuredData.Schema.Basic

/-!
# Schema types

A schema type says which fields its schemas have and where they are shown unless a site says
otherwise.  A type of a site may leave some of that open, or give fields that are none; then whoever
asks is told why there is no answer.
-/

namespace StructuredData

/-- A type of schemas. -/
structure SchemaType where
  name : Value
  title : Except Fault Value
  docsUrl : Value := ""
  /-- Where schemas of the type are shown. -/
  showOn : Except Fault RuleSet
  notShowOn : RuleSet := {}
  fields : Except Fault (List Field) := .ok []
  /-- The choices for the type of a node. -/
  typeOptions : Value := .object []
  deriving Inhabited

namespace SchemaType

/-- The schema that a type stands for, with given fields. -/
def schema (t : SchemaType) (fields : List Field) : Except Fault Schema := do
  return { title := ← t.title, type := t.name, showOn := ← t.showOn, notShowOn := t.notShowOn,
           fields }

/-- A schema of a type takes over its title, name and rules, has the given fields and stores no
values. -/
theorem schema_eq_ok_iff {t : SchemaType} {fields : List Field} {d : Schema} :
    t.schema fields = .ok d ↔
      d.type = t.name ∧ t.title = .ok d.title ∧ t.showOn = .ok d.showOn ∧
        d.notShowOn = t.notShowOn ∧ d.fields = fields ∧ d.values = .null := by
  obtain ⟨title, type, showOn, notShowOn, fields', values⟩ := d
  rw [schema]
  cases t.title with
  | error f => simp [bind, Except.bind]
  | ok title' =>
    cases t.showOn with
    | error f => simp [bind, Except.bind]
    | ok showOn' =>
      simp only [bind, Except.bind, pure, Except.pure, Except.ok.injEq, Schema.mk.injEq]
      constructor
      · rintro ⟨rfl, rfl, rfl, rfl, rfl, rfl⟩
        exact ⟨rfl, rfl, rfl, rfl, rfl, rfl⟩
      · rintro ⟨rfl, rfl, rfl, rfl, rfl, rfl⟩
        exact ⟨rfl, rfl, rfl, rfl, rfl, rfl⟩

/-- A type that has a title and rules has a schema with any fields. -/
theorem exists_schema {t : SchemaType} (htitle : ∃ title, t.title = .ok title)
    (hshow : ∃ showOn, t.showOn = .ok showOn) (fields : List Field) :
    ∃ d, t.schema fields = .ok d := by
  obtain ⟨title, htitle⟩ := htitle
  obtain ⟨showOn, hshow⟩ := hshow
  exact ⟨{ title, type := t.name, showOn, notShowOn := t.notShowOn, fields },
    schema_eq_ok_iff.mpr ⟨rfl, htitle, hshow, rfl, rfl, rfl⟩⟩

/-- The type that a description gives, under a name.  Its fields are read when they are asked
for. -/
def read (name : Value) (description : Value) : Except Fault SchemaType := do
  let entries ← description.entries
  let part := fun (key : String) => (entries.get? key).getD .null
  let showOn ← RuleSet.read (part "show_on")
  let notShowOn ← RuleSet.read (part "not_show_on")
  return { name, title := .ok ((entries.get? "title").getD name),
           docsUrl := (entries.get? "docs_url").getD "", showOn := .ok showOn, notShowOn,
           fields := Field.readChildren ((part "fields").orElse (.list [])),
           typeOptions := (entries.get? "type_options").getD (.object []) }

end SchemaType

end StructuredData
