import StructuredData.Calendar.Reader
import StructuredData.Value.Compare
import StructuredData.Value.Text

/-!
# Pages

What is being shown: the kind of page, and what is known of it before any content is looked up.
-/

namespace StructuredData

/-- The kinds of pages. -/
inductive PageKind where
  | singular
  | postTypeArchive
  | termArchive
  | authorArchive
  | dateArchive
  | blog
  | search
  | notFound
  deriving Repr, DecidableEq, Inhabited

namespace PageKind

/-- The name of a kind of page. -/
def name : PageKind → String
  | singular => "singular"
  | postTypeArchive => "post_type_archive"
  | termArchive => "term_archive"
  | authorArchive => "author_archive"
  | dateArchive => "date_archive"
  | blog => "blog"
  | search => "search"
  | notFound => "404"

/-- All kinds of pages. -/
def all : List PageKind :=
  [singular, postTypeArchive, termArchive, authorArchive, dateArchive, blog, search, notFound]

/-- The kind of page that a value names. -/
def read (v : Value) : Except Fault PageKind :=
  match all.find? fun k => v.isText k.name with
  | some k => .ok k
  | none => .error (.unknownPageKind v.toText)

theorem read_name (k : PageKind) : read (.text k.name) = .ok k := by
  cases k <;> rfl

end PageKind

/-- A page to be shown. -/
structure Page where
  kind : PageKind
  url : Value := .text ""
  /-- The post, term or user that the page is about. -/
  objectId : Option Int := none
  postType : Value := .null
  taxonomy : Value := .null
  isFrontPage : Bool := false
  searchQuery : Value := .text ""
  title : Value := .null
  date : Value := .null
  deriving Inhabited

namespace Page

/-- Whether the page shows one post. -/
def isSingular (p : Page) : Bool := p.kind == .singular

/-- Whether the page lists posts by type, term, author or date. -/
def isArchive (p : Page) : Bool :=
  [.postTypeArchive, .termArchive, .authorArchive, .dateArchive].contains p.kind

/-- The date of a page from what is given for it: a text is read, and what does not count as given
is none. -/
def readDate (v : Value) : Except Fault Value :=
  match v with
  | .text s =>
    if s = "" then .ok .null
    else match Moment.read s with
      | some t => .ok (.moment t)
      | none => .error (.badDate s)
  | v => .ok (v.orElse .null)

/-- The id of what a page is about, none if it is null. -/
def readId (v : Value) : Except Fault (Option Int) :=
  if v.isNull then .ok none else v.toInteger.map some

/-- The page that a value describes. -/
def read (v : Value) : Except Fault Page := do
  let entries ← v.entries
  let given := fun (key : String) (fallback : Value) => (entries.get? key).getD fallback
  let date ← readDate (given "date" .null)
  let kind ← PageKind.read (given "kind" (.text PageKind.singular.name))
  let objectId ← readId (given "object_id" .null)
  return { kind, url := given "url" (.text ""), objectId, postType := given "post_type" .null,
           taxonomy := given "taxonomy" .null,
           isFrontPage := (given "is_front_page" (.bool false)).truthy,
           searchQuery := given "search_query" (.text ""), title := given "title" .null, date }

/-- A page as a value. -/
def toValue (p : Page) : Value :=
  .object [("kind", .text p.kind.name), ("url", p.url), ("object_id", .ofInt? p.objectId),
    ("post_type", p.postType), ("taxonomy", p.taxonomy), ("is_front_page", .bool p.isFrontPage),
    ("search_query", p.searchQuery), ("title", p.title), ("date", p.date)]

end Page

/-- What display rules can ask about a page. -/
structure PageContext where
  page : Page
  /-- The ids of the terms of the post shown, by taxonomy. -/
  postTerms : Fields := []
  /-- The type of the product shown, null if there is none. -/
  productType : Value := .null
  /-- The names of the post types of the site. -/
  postTypes : List Scalar := []

namespace PageContext

/-- Whether the post shown has a term in a taxonomy. -/
def hasTermIn (ctx : PageContext) (term taxonomy : Value) : Except Fault Bool := do
  match ← Value.lookupKey ctx.postTerms taxonomy with
  | some ids => ids.holds term
  | none => return false

/-- Whether the post shown has a term, in a given taxonomy or, if it is null, in any. -/
def hasTerm (ctx : PageContext) (term taxonomy : Value) : Except Fault Bool :=
  if taxonomy.isNull then ctx.postTerms.anyM fun e => e.2.holds term
  else ctx.hasTermIn term taxonomy

/-- Whether one post of a type is shown. -/
def showsOne (ctx : PageContext) (postType : String) : Bool :=
  ctx.page.isSingular && ctx.page.postType.isText postType

/-- Whether the archive of a post type is shown. -/
def showsArchive (ctx : PageContext) (postType : String) : Bool :=
  ctx.page.kind == .postTypeArchive && ctx.page.postType.isText postType

/-- Whether the archive of a term of a taxonomy is shown. -/
def showsTermOf (ctx : PageContext) (taxonomy : String) : Bool :=
  ctx.page.kind == .termArchive && ctx.page.taxonomy.isText taxonomy

end PageContext

end StructuredData
