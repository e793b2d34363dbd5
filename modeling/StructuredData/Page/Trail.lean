import StructuredData.Content.Lineage
import StructuredData.Content.Origin

/-!
# Breadcrumb trails

The way from the home page to a page: archive, ancestors or terms, and the page itself.
-/

namespace StructuredData

/-- A step of a trail. -/
structure Crumb where
  name : Value
  link : Value
  /-- Where the link is kept, if it is kept in a record. -/
  origin : Option Origin := none
  deriving Inhabited

namespace Trail

/-- A crumb, or none if it has no name. -/
def crumb (name link : Value) (origin : Option Origin := none) : List Crumb :=
  if name.truthy then [⟨name, link.orElse "", if link.truthy then origin else none⟩] else []

/-- A crumb for a record that has a page of its own. -/
def linked (name link : Value) (origin : Option Origin := none) : List Crumb :=
  if link.truthy then crumb name link origin else []

/-- The crumb for a term that has a page of its own. -/
def termCrumb (t : Term) : List Crumb := linked t.name t.url (some ⟨.term t.id, "url"⟩)

/-- The ancestors of a term and the term itself. -/
def ofTerm (s : Source) (t : Term) : Except Fault (List Crumb) := do
  return (← Lineage.ofTerm s t).flatMap termCrumb ++ termCrumb t

/-- The first term that a post has in a taxonomy, with its ancestors. -/
def firstTerm (s : Source) (p : Post) (taxonomy : Value) : Except Fault (List Crumb) := do
  match ← s.postTerms (.int p.id) taxonomy with
  | t :: _ => ofTerm s t
  | [] => return []

/-- The ancestors of a post. -/
def postAncestors (s : Source) (p : Post) : Except Fault (List Crumb) := do
  return (← Lineage.ofPost s p).flatMap fun a =>
    linked a.title a.url (some ⟨.post a.id, "url"⟩)

/-- What a trail looks up by name. -/
structure Tables where
  postTypes : List (Scalar × PostType)
  taxonomies : List (Scalar × Taxonomy)

/-- The tables of a source. -/
def Tables.ofSource (s : Source) : Except Fault Tables := do
  return { postTypes := ← s.postTypeTable, taxonomies := ← s.taxonomyTable }

/-- The names of the taxonomies of a post type: those it lists, else those that list it. -/
def taxonomiesOf (t : Tables) (postType : Value) (info : Option PostType) :
    Except Fault (List Value) := do
  let listed ← match info with
    | some info => info.taxonomies.items
    | none => pure []
  if listed.isEmpty then
    let attached ← (Assoc.values t.taxonomies).filterM fun x => x.objectTypes.holds postType
    return attached.map (·.name)
  else return listed

/-- Whether a name is that of a hierarchical taxonomy. -/
def isHierarchical (t : Tables) (name : Value) : Except Fault Bool := do
  match ← Value.lookupKey t.taxonomies name with
  | some x => return x.hierarchical.truthy
  | none => return false

/-- The first of the names that is that of a hierarchical taxonomy. -/
def firstHierarchical (t : Tables) : List Value → Except Fault (Option Value)
  | [] => .ok none
  | name :: rest => do
    if ← isHierarchical t name then return some name else firstHierarchical t rest

/-- The taxonomy by which posts of a type are filed: the first hierarchical one, else the first,
null if there is none. -/
def primaryTaxonomy (t : Tables) (postType : Value) (info : Option PostType) :
    Except Fault Value := do
  let names ← taxonomiesOf t postType info
  match ← firstHierarchical t names with
  | some name => return name
  | none => return (names.head?).getD .null

/-- The post types whose archive is no step of a trail. -/
def withoutArchive : List String := ["post", "page", "product"]

/-- Where the link to the archive of a post type is kept. -/
def archiveOrigin : Value → Option Origin
  | .text name => some ⟨.postType name, "archive_url"⟩
  | _ => none

/-- The steps before a post that presents no product. -/
def beforePost (s : Source) (t : Tables) (p : Post) : Except Fault (List Crumb) := do
  let info ← Value.lookupKey t.postTypes p.postType
  let archive := match info with
    | some info =>
      if withoutArchive.any fun name => p.postType.isText name then []
      else linked (info.singularLabel.orElse info.label) info.archiveUrl (archiveOrigin p.postType)
    | none => []
  let hierarchical := (info.map fun info => info.hierarchical.truthy).getD false
  let above ←
    if hierarchical then postAncestors s p
    else do
      let taxonomy ← primaryTaxonomy t p.postType info
      if taxonomy.truthy then firstTerm s p taxonomy else pure []
  return archive ++ above

/-- The taxonomy by which products are filed. -/
def productTaxonomy : String := "product_cat"

/-- The steps before a post that presents a product. -/
def beforeProduct (s : Source) (t : Tables) (p : Post) : Except Fault (List Crumb) := do
  let shop := match t.postTypes.lookup (.text "product") with
    | some info => linked "Shop" info.archiveUrl (archiveOrigin "product")
    | none => []
  return shop ++ (← firstTerm s p (.text productTaxonomy))

/-- The steps to a post and the post itself. -/
def ofPost (s : Source) (t : Tables) (p : Post) : Except Fault (List Crumb) := do
  if p.postType.truthy then
    let before ← if p.postType.isText "product" then beforeProduct s t p else beforePost s t p
    return before ++ crumb p.title p.url (some ⟨.post p.id, "url"⟩)
  else return []

/-- The step of a date archive. -/
def ofDate (page : Page) : Except Fault (List Crumb) :=
  let origin : Option Origin := some ⟨.page, "url"⟩
  if page.title.truthy then .ok (crumb page.title page.url origin)
  else match page.date with
    | .null => .ok []
    | .moment t => .ok (crumb (.text t.dayText) page.url origin)
    | _ => .error .notAMoment

/-- The steps after the home page. -/
def steps (s : Source) (t : Tables) (page : Page) : Except Fault (List Crumb) := do
  match page.kind, page.objectId with
  | .termArchive, some id =>
    match ← s.term? (.int id) with
    | some term => ofTerm s term
    | none => return []
  | .singular, some id =>
    match ← s.post? (.int id) with
    | some p => ofPost s t p
    | none => return []
  | .authorArchive, some id =>
    match ← s.user? (.int id) with
    | some u =>
      return crumb (.text ("Author: " ++ u.displayName.toText)) u.postsUrl
        (some ⟨.user u.id, "posts_url"⟩)
    | none => return []
  | .dateArchive, _ => ofDate page
  | .search, _ =>
    return crumb (.text ("Search results for: " ++ page.searchQuery.toText)) (.text "")
  | .notFound, _ => return crumb (.text "404 Not Found") (.text "")
  | _, _ => return []

/-- The trail of a page, the home page first. -/
def ofPage (s : Source) (page : Page) : Except Fault (List Crumb) := do
  let t ← Tables.ofSource s
  return crumb "Home" s.content.site.url (some ⟨.site, "url"⟩) ++ (← steps s t page)

/-- Crumbs as list items, numbered from `first`. -/
def listItemsFrom (first : Nat) : List Crumb → List Value
  | [] => []
  | c :: rest =>
    .object [("@type", .text "ListItem"), ("position", .int first),
      ("item", .object [("@id", c.link), ("name", c.name)])] :: listItemsFrom (first + 1) rest

/-- Crumbs as list items with their positions. -/
def listItems (crumbs : List Crumb) : List Value := listItemsFrom 1 crumbs

end Trail

end StructuredData
