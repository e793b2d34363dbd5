import StructuredData.Content.Basic
import StructuredData.Page.Basic

/-!
# Sources of content

Content is read through a source.  Every source gives posts, terms, users and the site; whether it
also lists what the site is made of, and whether it knows about products, is up to it.
-/

namespace StructuredData

/-- A source of content. -/
structure Source where
  content : Content := {}
  /-- Whether it gives post types, taxonomies, the current user and stored schemas. -/
  lists : Bool := true
  /-- Whether it can be asked about products. -/
  knowsProducts : Bool := true

namespace Source

/-- The record with an id, none if there is none. -/
def find {α : Type} (table : List (Int × α)) (id : Value) : Except Fault (Option α) :=
  id.asIntKey.map fun n => n.bind fun n => table.lookup n

/-- The post with an id. -/
def post? (s : Source) (id : Value) : Except Fault (Option Post) := find s.content.posts id

/-- The term with an id. -/
def term? (s : Source) (id : Value) : Except Fault (Option Term) := find s.content.terms id

/-- The user with an id. -/
def user? (s : Source) (id : Value) : Except Fault (Option User) := find s.content.users id

/-- The user who is logged in, null if there is none. -/
def currentUser (s : Source) : Value := if s.lists then s.content.currentUser else .null

/-- The types of posts. -/
def postTypes (s : Source) : List PostType := if s.lists then s.content.postTypes else []

/-- The taxonomies. -/
def taxonomies (s : Source) : List Taxonomy := if s.lists then s.content.taxonomies else []

/-- The terms of a taxonomy that a post has, in order. -/
def postTerms (s : Source) (id taxonomy : Value) : Except Fault (List Term) := do
  let byTaxonomy := (← find s.content.postTerms id).getD []
  let ids := (← Value.lookupKey byTaxonomy taxonomy).getD []
  return ids.filterMap fun n => s.content.terms.lookup n

/-- What a kind of page can have schemas stored for. -/
def ownerOf : PageKind → Option Owner
  | .singular => some .post
  | .termArchive => some .term
  | .authorArchive => some .user
  | _ => none

/-- The schemas stored for what a page is about. -/
def storedSchemas (s : Source) (page : Page) : List Value :=
  match s.lists, ownerOf page.kind, page.objectId with
  | true, some owner, some id => (s.content.stored.lookup (owner, id)).getD []
  | _, _, _ => []

/-- What is known about the product that a post presents. -/
def product? (s : Source) (id : Value) : Except Fault (Option Product) :=
  if s.knowsProducts then find s.content.products id else .error .notOffered

/-- The types of products with their labels. -/
def productTypes (s : Source) : Except Fault Fields :=
  if s.knowsProducts then .ok s.content.productTypes else .error .notOffered

/-- Whether products are sold. -/
def sells (s : Source) : Bool := s.knowsProducts && (!s.lists || s.content.sells)

/-- Records by their names, which have to be keys; of several with one name the last counts. -/
def byName {α : Type} (name : α → Value) (records : List α) : Except Fault (List (Scalar × α)) := do
  return Assoc.ofPairs (← records.mapM fun r => do return (← (name r).key, r))

/-- The post types by name, in order. -/
def postTypeTable (s : Source) : Except Fault (List (Scalar × PostType)) :=
  byName PostType.name s.postTypes

/-- The taxonomies by name, in order. -/
def taxonomyTable (s : Source) : Except Fault (List (Scalar × Taxonomy)) :=
  byName Taxonomy.name s.taxonomies

/-- The taxonomies that are used where a site names none. -/
def commonTaxonomies : List Value := ["category", "post_tag"]

/-- Whether posts of a type, or of any if it is null, have a taxonomy. -/
def attaches (postType : Value) (t : Taxonomy) : Except Fault Bool :=
  if postType.isNull || !t.objectTypes.truthy then .ok true else t.objectTypes.holds postType

/-- The names of the taxonomies that posts of a type have, or of all if it is null. -/
def taxonomyNames (s : Source) (postType : Value) : Except Fault (List Value) := do
  let attached ← s.taxonomies.filterM (attaches postType)
  let names := attached.map (·.name)
  return if names.isEmpty then commonTaxonomies else names

/-- The ids of the terms of a post by taxonomy, for the taxonomies in which it has any. -/
def termIds (s : Source) (post : Value) (taxonomies : List Value) : Except Fault Fields := do
  let pairs ← taxonomies.mapM fun taxonomy => do
    let terms ← s.postTerms post taxonomy
    return (← taxonomy.key, Value.list (terms.map fun t => .int t.id))
  return Assoc.ofPairs (pairs.filter fun e => e.2.truthy)

/-- What display rules can ask about a page. -/
def pageContext (s : Source) (page : Page) : Except Fault PageContext := do
  let shown := if page.isSingular then Value.ofInt? page.objectId else .null
  let postTerms ←
    if shown.isNull then pure [] else s.termIds shown (← s.taxonomyNames page.postType)
  let productType ←
    if !shown.isNull && page.postType.isText "product" && s.sells then do
      pure ((← s.product? shown).map (·.type))
    else pure none
  return { page, postTerms, productType := productType.getD .null,
           postTypes := (← s.postTypeTable).map Prod.fst }

end Source

end StructuredData
