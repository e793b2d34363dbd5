import StructuredData.Facts.Entity
import StructuredData.Page.Trail
import StructuredData.Registry.Basic
import StructuredData.Schema.Identity

/-!
# The facts for a page

What templates can refer to while a page is rendered: the post, term, author and user, the site, the
page itself, the schemas on it, and the product where products are sold.  Extenders may change all
of it; the body of the post is escaped after them.
-/

namespace StructuredData.Facts

/-- The post that a page shows. -/
def postOf (s : Source) (page : Page) : Except Fault (Option Post) :=
  match page.isSingular, page.objectId with
  | true, some id => s.post? (.int id)
  | _, _ => .ok none

/-- The facts about the term whose archive is shown. -/
def termOf (s : Source) (page : Page) : Except Fault Fields := do
  match page.kind, page.objectId with
  | .termArchive, some id =>
    return ((← s.term? (.int id)).map term).getD []
  | _, _ => return []

/-- The id of the author of a page, null if it has none. -/
def authorOf (page : Page) : Option Post → Value
  | some p => p.authorId
  | none => if page.kind = .authorArchive then .ofInt? page.objectId else .null

/-- The title of a page: its own, else that of what it shows. -/
def titleOf (s : Source) (page : Page) (post : Option Post) : Except Fault Value := do
  if page.title.truthy then return page.title
  else match post, page.kind, page.objectId with
    | some p, _, _ => return p.title
    | none, .termArchive, some id => return ((← s.term? (.int id)).map (·.name)).getD (.text "")
    | none, .authorArchive, some id =>
      return ((← s.user? (.int id)).map (·.displayName)).getD (.text "")
    | _, _, _ => return .text ""

/-- The facts about the page itself. -/
def current (s : Source) (page : Page) (post : Option Post) (crumbs : List Crumb) :
    Except Fault Fields := do
  let named := crumbs.map fun c => { c with name := c.name.cleaned }
  return [("url", page.url), ("title", (← titleOf s page post).cleaned),
    ("breadcrumbs", .list (Trail.listItems named))]

/-- The facts about the product that a post presents. -/
def productOf (s : Source) (post : Option Post) : Except Fault Fields := do
  match post with
  | some p =>
    if p.postType.isText "product" && s.knowsProducts then
      return ((← s.product? (.int p.id)).map (·.facts Value.cleaned)).getD []
    else return []
  | none => return []

/-! ## Ties -/

/-- The ties of facts about a record with an id. -/
def tiesOf (space : String) (holder : Int → Holder) (facts : Fields) : List Tie :=
  match facts.get? "ID" with
  | some (.int id) => Sheet.tiesOf space (holder id)
  | _ => []

/-- The ties of the links of a trail, which starts at an index. -/
def trailTies (index : Nat) : List Crumb → List Tie
  | [] => []
  | c :: rest =>
    let route : Route := ["current", "breadcrumbs", .int index, "item", "@id"]
    (c.origin.map fun origin => { route, origin }).toList ++ trailTies (index + 1) rest

/-! ## All facts -/

variable [Slugifier]

/-- The facts for a page before extenders see them. -/
def plain (s : Source) (page : Page) (schemas : List Schema) : Except Fault Sheet := do
  let post ← postOf s page
  let postFacts ← match post with
    | some p => Facts.post s p
    | none => pure []
  let termFacts ← termOf s page
  let author ← userById s (authorOf page post)
  let user ← userById s s.currentUser
  let crumbs ← Trail.ofPage s page
  let currentFacts ← current s page post crumbs
  let links ← Schema.links schemas
  let product ← if s.sells then productOf s post else pure []
  let facts : Fields := [("post", .object postFacts), ("term", .object termFacts),
    ("author", .object author), ("user", .object user), ("site", .object (site s.content.site)),
    ("current", .object currentFacts), ("schemas", .object links)]
  let products : Fields := if s.sells then [("product", .object product)] else []
  let productTies := match post with
    | some p => if product.isEmpty then [] else Sheet.tiesOf "product" (.product p.id)
    | none => []
  return { facts := .object (facts ++ products),
           ties := tiesOf "post" .post postFacts ++ tiesOf "term" .term termFacts ++
             tiesOf "author" .user author ++ tiesOf "user" .user user ++
             Sheet.tiesOf "site" .site ++ Sheet.tiesOf "current" .page ++ trailTies 0 crumbs ++
             productTies }

/-- The facts about a post with the body escaped and its words counted, if there is a body. -/
def escapePost (post : Fields) : Except Fault Fields :=
  match post.get? "content" with
  | some content => do
    let escaped := Text.escape (← (content.orElse "").written)
    return Assoc.set "word_count" (.int (Text.words escaped).length)
      (Assoc.set "content" (.text escaped) post)
  | none => .ok post

/-- Escapes the body of the post in the facts for a page. -/
def escapeBody : Value → Except Fault Value
  | .object facts =>
    match Fields.get? facts "post" with
    | some (.object post) => do
      return .object (Assoc.set "post" (.object (← escapePost post)) facts)
    | _ => .ok (.object facts)
  | _ => .error .notAnObject

/-- The facts for a page as extenders leave them. -/
def extended (s : Source) (registry : Option Registry) (page : Page) (schemas : List Schema) :
    Logged Sheet := do
  let sheet ← plain s page schemas
  match registry with
  | some r => r.extendContext sheet page
  | none => return sheet

/-- The facts for a page on which schemas are shown. -/
def collect (s : Source) (registry : Option Registry) (page : Page) (schemas : List Schema) :
    Logged Value := do
  escapeBody (← extended s registry page schemas).facts

end StructuredData.Facts
