import StructuredData.Field.Basic

/-!
# Shared properties

Fields that several schema types have in common.
-/

namespace StructuredData.Property

/-- The `@id` of a node of the page shown. -/
def pageId : String := "%current.url%#%id%"

/-- The `@id` of a node of the site. -/
def siteId : String := "%site.url%#%id%"

/-- The hidden type of a group. -/
def typeTag (type : String) : Field :=
  { id := "@type", kind := .hidden, defaultValue := .text type, required := true }

/-- The hidden type of a group that is not required to have one. -/
def visibleTypeTag (type : String) : Field :=
  { id := "@type", kind := .hidden, defaultValue := .text type, visible := true }

/-- The hidden `@id` of a node. -/
def idField (template : String) : Field :=
  { id := "@id", kind := .hidden, defaultValue := .text template, required := true }

/-- The title under which a schema is listed. -/
def titleField (title : String) : Field :=
  { id := "schema_name", kind := .title, defaultValue := .text title, visible := true,
    label := "Schema Title",
    tooltip := "Internal name for this schema; never part of the structured data." }

/-- The name of a person in a group. -/
def personName (label : String) : Field :=
  { id := "name", required := true, defaultValue := "%author.display_name%", label }

/-- The author as a person. -/
def person : Field :=
  { id := "author", kind := .group, children := [typeTag "Person", personName "Name"] }

/-- A postal address. -/
def address : Field :=
  { id := "address", kind := .group, label := "Address", children := [
      visibleTypeTag "PostalAddress",
      { id := "streetAddress", visible := true, label := "Street address" },
      { id := "addressLocality", visible := true, label := "Locality" },
      { id := "addressRegion", visible := true, label := "Region" },
      { id := "addressCountry", defaultValue := "US", visible := true, label := "Country" },
      { id := "postalCode", visible := true, label := "Postal code" }] }

/-- The overall rating. -/
def aggregateRating : Field :=
  { id := "aggregateRating", kind := .group, label := "Aggregate rating",
    tooltip := "Overall rating based on customer reviews.", children := [
      typeTag "AggregateRating",
      { id := "ratingValue", required := true, defaultValue := "%product.rating%",
        label := "Value" },
      { id := "reviewCount", required := true, defaultValue := "%product.review_count%",
        label := "Review count" }] }

/-- The ratings to choose from. -/
def ratings : Value :=
  .object [("1", "1"), ("2", "2"), ("3", "3"), ("4", "4"), ("5", "5")]

/-- Reviews. -/
def review : Field :=
  { id := "review", kind := .group, cloneable := true, label := "Reviews", children := [
      typeTag "Review",
      { id := "author", kind := .group, visible := true,
        children := [typeTag "Person", personName "Author"] },
      { id := "reviewRating", kind := .group, visible := true, label := "Rating", children := [
          typeTag "Rating",
          { id := "ratingValue", required := true, defaultValue := "5", options := ratings,
            label := "Rating value" },
          { id := "bestRating", defaultValue := "5", options := ratings,
            label := "Best rating" },
          { id := "worstRating", defaultValue := "1", options := ratings,
            label := "Worst rating" }] },
      { id := "datePublished", label := "Date published" }] }

/-- A name. -/
def name : Field := { id := "name", defaultValue := "%post.title%", label := "Name" }

/-- An address in the web. -/
def url : Field := { id := "url", label := "URL" }

/-- A description. -/
def description : Field :=
  { id := "description", defaultValue := "%post.excerpt%", visible := true,
    label := "Description" }

/-- Images. -/
def image : Field :=
  { id := "image", defaultValue := .list ["%post.thumbnail%"], cloneable := true,
    label := "Image" }

/-- The date of publication. -/
def datePublished : Field := { id := "datePublished", label := "Published date" }

/-- The date of the last change. -/
def dateModified : Field := { id := "dateModified", label := "Modified date" }

/-- What the page is mainly about. -/
def mainEntity : Field :=
  { id := "mainEntity", label := "Main entity",
    tooltip := "Link another schema here with a %schemas.<name>% variable." }

/-- The page that is mainly about this. -/
def mainEntityOfPage : Field :=
  { id := "mainEntityOfPage", defaultValue := "%schemas.webpage%", visible := true,
    label := "Main entity of page" }

/-- The shared properties by name. -/
def table : List (String × Field) :=
  [("name", name), ("url", url), ("description", description), ("image", image),
    ("datePublished", datePublished), ("dateModified", dateModified), ("mainEntity", mainEntity),
    ("mainEntityOfPage", mainEntityOfPage), ("Person", person), ("address", address),
    ("aggregateRating", aggregateRating), ("review", review)]

/-- The shared property with a name, changed by the entries of a description. -/
def find (key : String) (changes : Fields) : Except Fault Field :=
  match table.lookup key with
  | some f => f.change changes
  | none => .error (.unknownProperty key)

end StructuredData.Property
