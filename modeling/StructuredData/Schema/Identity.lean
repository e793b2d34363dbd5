import StructuredData.Schema.Basic
import StructuredData.Text.Slug
import StructuredData.Value.Record

/-!
# Identity of a schema

Within a page a schema goes by a slug, made from its label, and its node by an `@id`, a template in
which the slug takes the place of `%id%`.
-/

namespace StructuredData

/-- The template of an `@id` where none is stored. -/
def defaultIdTemplate : String := "%current.url%#%id%"

/-- Puts a slug in the place of each `%id%`. -/
def putSlug (slug : List Char) : List Char → List Char
  | '%' :: 'i' :: 'd' :: '%' :: rest => slug ++ putSlug slug rest
  | c :: rest => c :: putSlug slug rest
  | [] => []

variable [Slugifier]

/-- The slug of a label, empty if the label is no text. -/
def slugOf : Value → String
  | .text s => Slug.ofText s
  | _ => ""

namespace Schema

/-- The label of a schema: the stored one, else its title, else its type. -/
def label (d : Schema) : Except Fault Value := do
  let stored ← (d.values.orElse (.object [])).member "_label"
  return (stored.orElse d.title).orElse d.type

/-- The name under which other schemas of a page refer to this one. -/
def slug (d : Schema) : Except Fault String := d.label.map slugOf

/-- A text with the slug of the schema in the place of `%id%`. -/
def withSlug (d : Schema) (s : String) : Except Fault String :=
  d.slug.map fun slug => String.ofList (putSlug slug.toList s.toList)

/-- The template of the `@id`, with the slug in place and other placeholders left. -/
def idTemplate (d : Schema) : Except Fault String := do
  match (← (← d.effectiveValues).member "@id").orElse defaultIdTemplate with
  | .text s => d.withSlug s
  | _ => d.withSlug defaultIdTemplate

/-- The values of a schema with the slug in place in its `@id`. -/
def fieldValues (d : Schema) : Except Fault Fields := do
  let values ← (← d.effectiveValues).toRecord
  match values.get? "@id" with
  | some (.text s) => return Assoc.set "@id" (.text (← d.withSlug s)) values
  | _ => return values

/-- The references to schemas that templates can use: each slug with the `@id` under it. -/
def links (ds : List Schema) : Except Fault Fields := do
  let pairs ← ds.mapM fun d => do
    let slug ← d.slug
    return (Scalar.text slug, Value.object [("@id", .text (← d.idTemplate))])
  return Assoc.ofPairs pairs

end Schema

end StructuredData
