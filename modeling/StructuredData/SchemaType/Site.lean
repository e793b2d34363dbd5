import StructuredData.SchemaType.Basic
import StructuredData.SchemaType.Property

/-!
# Types for the site and its pages
-/

namespace StructuredData.SchemaType

open Property

/-- The site as a whole. -/
def webSite : SchemaType where
  name := "WebSite"
  title := .ok "WebSite"
  docsUrl := "https://schema.org/WebSite"
  showOn := .ok { rules := ["basic-global"] }
  fields := .ok [
    idField siteId,
    titleField "WebSite",
    { Property.name with required := true, defaultValue := "%site.title%" },
    { id := "author", defaultValue := "%schemas.person%", label := "Author" },
    { id := "copyrightHolder", defaultValue := "%schemas.person%",
      label := "Copyright holder" },
    { id := "description", defaultValue := "%site.description%", visible := true,
      label := "Description" },
    { Property.url with required := true, defaultValue := "%site.url%" },
    { id := "potentialAction", defaultValue := "%schemas.searchaction%", visible := true,
      label := "Potential action" },
    { id := "publisher", defaultValue := "%schemas.organization%", visible := true,
      label := "Publisher" },
    { id := "thumbnailUrl", label := "Thumbnail URL" }]

/-- Choices whose labels are their names. -/
def plainOptions (names : List String) : Value :=
  .object (names.map fun name => (.text name, .text name))

/-- The types of web pages. -/
def webPageTypes : Value := plainOptions ["WebPage", "CollectionPage", "AboutPage", "ContactPage"]

/-- The page shown. -/
def webPage : SchemaType where
  name := "WebPage"
  title := .ok "WebPage"
  docsUrl := "https://schema.org/WebPage"
  showOn := .ok { rules := ["basic-global"] }
  typeOptions := webPageTypes
  fields := .ok [
    idField pageId,
    titleField "WebPage",
    { id := "@type", required := true, defaultValue := "WebPage", options := webPageTypes,
      label := "Type" },
    { Property.name with required := true, defaultValue := "%current.title%" },
    { id := "author", defaultValue := "%schemas.person%", label := "Author" },
    { id := "inLanguage", defaultValue := "%site.language%", visible := true,
      label := "Language" },
    { Property.url with required := true, defaultValue := "%current.url%" },
    { id := "breadcrumb", defaultValue := "%schemas.breadcrumblist%", visible := true,
      label := "Breadcrumb" },
    { id := "contributor", defaultValue := "%schemas.person%", label := "Contributor" },
    { id := "copyrightHolder", defaultValue := "%schemas.person%",
      label := "Copyright holder" },
    { datePublished with defaultValue := "%post.created_date%" },
    { dateModified with defaultValue := "%post.modified_date%" },
    { id := "description", visible := true, label := "Description" },
    { id := "isPartOf", defaultValue := "%schemas.website%", visible := true,
      label := "Part of" },
    { id := "publisher", defaultValue := "%schemas.organization%", visible := true,
      label := "Publisher" },
    { id := "thumbnailUrl", defaultValue := "%post.thumbnail%", label := "Thumbnail URL" },
    mainEntity]

/-- The trail of the page shown, never on the front page. -/
def breadcrumbList : SchemaType where
  name := "BreadcrumbList"
  title := .ok "BreadcrumbList"
  docsUrl := "https://developers.google.com/search/docs/appearance/structured-data/breadcrumb"
  showOn := .ok { rules := ["basic-global"] }
  notShowOn := { rules := ["special-front"] }
  fields := .ok [
    titleField "BreadcrumbList",
    { id := "name", kind := .hidden, required := true },
    idField pageId,
    { id := "@type", kind := .hidden, required := true, defaultValue := "BreadcrumbList" },
    { id := "itemListElement", kind := .hidden, required := true,
      defaultValue := "%current.breadcrumbs%" }]

/-- The search of the site. -/
def searchAction : SchemaType where
  name := "SearchAction"
  title := .ok "SearchAction"
  docsUrl := "https://schema.org/SearchAction"
  showOn := .ok { rules := ["basic-global"] }
  fields := .ok [
    titleField "SearchAction",
    idField siteId,
    { id := "target", kind := .hidden, required := true,
      defaultValue := "%site.url%?s=\x7bsearch_term_string\x7d" },
    { id := "query-input", kind := .hidden, required := true,
      defaultValue := "required name=search_term_string" }]

end StructuredData.SchemaType
