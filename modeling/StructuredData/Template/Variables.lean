import StructuredData.Content.Source
import StructuredData.Registry.Basic
import StructuredData.Schema.Identity
import StructuredData.Text.Case

/-!
# Choosing placeholders

The placeholders that make sense for a site, with labels, for those who write templates.
-/

namespace StructuredData.Variables

/-- Words that are written in capitals. -/
def capitals : List (String × String) := [("id", "ID"), ("url", "URL"), ("sku", "SKU")]

/-- A name with underscores as a label. -/
def humanize (name : String) : String :=
  " ".intercalate ((Text.cut '_' name).map fun w =>
    (capitals.lookup (Text.lower w)).getD (Text.capitalize w))

/-- The facts about a user that have placeholders. -/
def userFields : List String :=
  ["ID", "first_name", "last_name", "display_name", "username", "nickname", "email",
    "website_url", "nicename", "description", "posts_url", "avatar"]

/-- The facts about a product that have placeholders. -/
def productFields : List String :=
  ["price", "price_with_tax", "low_price", "high_price", "offer_count", "sku", "stock",
    "currency", "rating", "review_count", "image", "image_width", "image_height", "description",
    "sale_from", "sale_to"]

/-- The facts that have placeholders on every site: where they are found, how that is called, and
their names. -/
def namespaces : List (String × String × List String) :=
  [("post", "Post", ["title", "ID", "excerpt", "content", "url", "slug", "date", "modified_date",
      "thumbnail", "comment_count", "word_count", "tags", "categories"]),
    ("term", "Term", ["ID", "name", "slug", "taxonomy", "description", "url"]),
    ("author", "Author", userFields), ("user", "User", userFields),
    ("site", "Site", ["title", "description", "url", "language", "icon"]),
    ("current", "Current Page", ["title", "url"])]

/-- The placeholders for the facts of one namespace. -/
def ofNamespace (space label : String) (names : List String) : Fields :=
  names.map fun name =>
    (.text ("%" ++ space ++ "." ++ name ++ "%"), .text (label ++ " " ++ humanize name))

/-- The label of a taxonomy: the one that the site gives, else its name. -/
def taxonomyLabel (s : Source) (name : Value) : Except Fault Value :=
  match s.taxonomies.find? fun x => x.name.equals name with
  | some x => .ok x.label
  | none =>
    match name with
    | .text name => .ok (humanize name)
    | _ => .error .notAText

/-- The placeholders for the terms of a post. -/
def ofTaxonomies (s : Source) : Except Fault Fields := do
  (← s.taxonomyNames .null).mapM fun name => do
    return (.text ("%post.tax." ++ name.toText ++ "%"), ← taxonomyLabel s name)

variable [Slugifier]

/-- The placeholder for the node of a schema. -/
def ofSchema (d : Schema) : Except Fault (Scalar × Value) := do
  return (.text ("%schemas." ++ (← d.slug) ++ "%"), .text (d.type.toText ++ " Schema"))

/-- The placeholders of a site with their labels, sorted by label, where those for the terms of a
post and the schemas of the catalog are given. -/
def sorted (s : Source) (terms : Fields) (ds : List Schema) : Except Fault Fields := do
  let fixed := namespaces.flatMap fun (space, label, names) => ofNamespace space label names
  let products := if s.sells then ofNamespace "product" "Product" productFields else []
  let schemas ← ds.mapM ofSchema
  Value.sortBy Prod.snd (Assoc.ofPairs (terms ++ fixed ++ products ++ schemas))

/-- The placeholders of a site with their labels. -/
def list (s : Source) (c : Catalog) : Except Fault Fields := do
  let terms ← ofTaxonomies s
  sorted s terms (← c.all)

end StructuredData.Variables
