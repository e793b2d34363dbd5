import StructuredData.Value.Compare
import StructuredData.Value.Text

/-!
# Content records

Posts, terms, users and products as the site stores them.  Only ids and dates are checked when a
record is read; every other field holds whatever was stored.
-/

namespace StructuredData

/-- Checks the keys of a record: all are known, and none of the required ones is missing. -/
def checkKeys (known required : List String) (entries : Fields) : Except Fault Unit :=
  match entries.find? fun e => !known.any fun key => Scalar.text key == e.1 with
  | some e => .error (.unknownField e.1.plainText)
  | none =>
    match required.find? fun key => (entries.get? key).isNone with
    | some key => .error (.missingField key)
    | none => .ok ()

/-- The value of a field of a record, with a value for a missing one. -/
def given (entries : Fields) (key : String) (fallback : Value := "") : Value :=
  (entries.get? key).getD fallback

/-- The entries of a record, which has to be an object. -/
def recordEntries : Value → Except Fault Fields
  | .object entries => .ok entries
  | _ => .error .notARecord

/-- A moment in standard form, null if there is none. -/
def momentValue : Option Moment → Value
  | some t => .text t.isoText
  | none => .null

/-- A post, page or other entry of the site. -/
structure Post where
  id : Int
  title : Value
  postType : Value := .text "post"
  excerpt : Value := .text ""
  content : Value := .text ""
  url : Value := .text ""
  slug : Value := .text ""
  date : Option Moment := none
  modified : Option Moment := none
  thumbnail : Value := .text ""
  commentCount : Value := .int 0
  authorId : Value := .null
  parentId : Value := .int 0
  customFields : Value := .object []
  deriving Inhabited

namespace Post

/-- Makes a post of its id, its dates and the other fields stored for it. -/
def ofEntries (id : Int) (date modified : Option Moment) (e : Fields) : Except Fault Post := do
  checkKeys ["title", "post_type", "excerpt", "content", "url", "slug", "date", "modified_date",
    "thumbnail", "comment_count", "author_id", "parent_id", "custom_fields"] ["title"] e
  return { id, title := given e "title", postType := given e "post_type" (.text "post"),
           excerpt := given e "excerpt", content := given e "content", url := given e "url",
           slug := given e "slug", date, modified, thumbnail := given e "thumbnail",
           commentCount := given e "comment_count" (.int 0),
           authorId := given e "author_id" .null, parentId := given e "parent_id" (.int 0),
           customFields := given e "custom_fields" (.object []) }

/-- A post as a value. -/
def toValue (p : Post) : Value :=
  .object [("id", .int p.id), ("title", p.title), ("post_type", p.postType),
    ("excerpt", p.excerpt), ("content", p.content), ("url", p.url), ("slug", p.slug),
    ("date", momentValue p.date), ("modified_date", momentValue p.modified),
    ("thumbnail", p.thumbnail), ("comment_count", p.commentCount), ("author_id", p.authorId),
    ("parent_id", p.parentId), ("custom_fields", p.customFields)]

end Post

/-- A term of a taxonomy. -/
structure Term where
  id : Int
  name : Value
  slug : Value := .text ""
  taxonomy : Value := .text ""
  description : Value := .text ""
  url : Value := .text ""
  parentId : Value := .int 0
  deriving Inhabited

namespace Term

/-- Makes a term of its id and the other fields stored for it. -/
def ofEntries (id : Int) (e : Fields) : Except Fault Term := do
  checkKeys ["name", "slug", "taxonomy", "description", "url", "parent_id"] ["name"] e
  return { id, name := given e "name", slug := given e "slug", taxonomy := given e "taxonomy",
           description := given e "description", url := given e "url",
           parentId := given e "parent_id" (.int 0) }

/-- A term as a value. -/
def toValue (t : Term) : Value :=
  .object [("id", .int t.id), ("name", t.name), ("slug", t.slug), ("taxonomy", t.taxonomy),
    ("description", t.description), ("url", t.url), ("parent_id", t.parentId)]

end Term

/-- A user of the site. -/
structure User where
  id : Int
  displayName : Value := .text ""
  firstName : Value := .text ""
  lastName : Value := .text ""
  username : Value := .text ""
  nickname : Value := .text ""
  email : Value := .text ""
  websiteUrl : Value := .text ""
  nicename : Value := .text ""
  description : Value := .text ""
  postsUrl : Value := .text ""
  avatar : Value := .text ""
  deriving Inhabited

namespace User

/-- Makes a user of the id and the other fields stored for it. -/
def ofEntries (id : Int) (e : Fields) : Except Fault User := do
  checkKeys ["display_name", "first_name", "last_name", "username", "nickname", "email",
    "website_url", "nicename", "description", "posts_url", "avatar"] [] e
  return { id, displayName := given e "display_name", firstName := given e "first_name",
           lastName := given e "last_name", username := given e "username",
           nickname := given e "nickname", email := given e "email",
           websiteUrl := given e "website_url", nicename := given e "nicename",
           description := given e "description", postsUrl := given e "posts_url",
           avatar := given e "avatar" }

/-- A user as a value. -/
def toValue (u : User) : Value :=
  .object [("id", .int u.id), ("display_name", u.displayName), ("first_name", u.firstName),
    ("last_name", u.lastName), ("username", u.username), ("nickname", u.nickname),
    ("email", u.email), ("website_url", u.websiteUrl), ("nicename", u.nicename),
    ("description", u.description), ("posts_url", u.postsUrl), ("avatar", u.avatar)]

end User

/-- The site itself. -/
structure Site where
  title : Value := .text ""
  description : Value := .text ""
  url : Value := .text ""
  language : Value := .text "en_US"
  icon : Value := .text ""
  deriving Inhabited

namespace Site

/-- Makes a site of the fields stored for it. -/
def ofEntries (e : Fields) : Except Fault Site := do
  checkKeys ["title", "description", "url", "language", "icon"] [] e
  return { title := given e "title", description := given e "description", url := given e "url",
           language := given e "language" (.text "en_US"), icon := given e "icon" }

/-- A site as a value. -/
def toValue (s : Site) : Value :=
  .object [("title", s.title), ("description", s.description), ("url", s.url),
    ("language", s.language), ("icon", s.icon)]

end Site

/-- What is known about the product that a post presents. -/
structure Product where
  type : Value := .text "simple"
  price : Value := .text ""
  priceWithTax : Value := .text ""
  lowPrice : Value := .text ""
  highPrice : Value := .text ""
  offerCount : Value := .int 0
  sku : Value := .text ""
  stock : Value := .text ""
  currency : Value := .text ""
  rating : Value := .text ""
  reviewCount : Value := .int 0
  image : Value := .text ""
  imageWidth : Value := .null
  imageHeight : Value := .null
  description : Value := .text ""
  saleFrom : Value := .text ""
  saleTo : Value := .text ""
  deriving Inhabited

namespace Product

/-- Makes a product of the fields stored for it. -/
def ofEntries (e : Fields) : Except Fault Product := do
  checkKeys ["type", "price", "price_with_tax", "low_price", "high_price", "offer_count", "sku",
    "stock", "currency", "rating", "review_count", "image", "image_width", "image_height",
    "description", "sale_from", "sale_to"] [] e
  return { type := given e "type" (.text "simple"), price := given e "price",
           priceWithTax := given e "price_with_tax", lowPrice := given e "low_price",
           highPrice := given e "high_price", offerCount := given e "offer_count" (.int 0),
           sku := given e "sku", stock := given e "stock", currency := given e "currency",
           rating := given e "rating", reviewCount := given e "review_count" (.int 0),
           image := given e "image", imageWidth := given e "image_width" .null,
           imageHeight := given e "image_height" .null, description := given e "description",
           saleFrom := given e "sale_from", saleTo := given e "sale_to" }

/-- The fields of a product other than its type, `describe` saying how the description is
written. -/
def facts (describe : Value → Value) (p : Product) : Fields :=
  [("price", p.price), ("price_with_tax", p.priceWithTax), ("low_price", p.lowPrice),
    ("high_price", p.highPrice), ("offer_count", p.offerCount), ("sku", p.sku),
    ("stock", p.stock), ("currency", p.currency), ("rating", p.rating),
    ("review_count", p.reviewCount), ("image", p.image), ("image_width", p.imageWidth),
    ("image_height", p.imageHeight), ("description", describe p.description),
    ("sale_from", p.saleFrom), ("sale_to", p.saleTo)]

/-- A product as a value. -/
def toValue (p : Product) : Value := .object (("type", p.type) :: p.facts id)

end Product

/-- A type of posts. -/
structure PostType where
  name : Value
  label : Value := .text ""
  singularLabel : Value := .text ""
  hierarchical : Value := .bool false
  builtin : Value := .bool false
  archiveUrl : Value := .text ""
  taxonomies : Value := .list []
  deriving Inhabited

namespace PostType

/-- Makes a post type of the fields stored for it. -/
def ofEntries (e : Fields) : Except Fault PostType := do
  checkKeys ["name", "label", "singular_label", "hierarchical", "builtin", "archive_url",
    "taxonomies"] ["name", "label"] e
  return { name := given e "name", label := given e "label",
           singularLabel := given e "singular_label",
           hierarchical := given e "hierarchical" (.bool false),
           builtin := given e "builtin" (.bool false), archiveUrl := given e "archive_url",
           taxonomies := given e "taxonomies" (.list []) }

/-- A post type as a value. -/
def toValue (t : PostType) : Value :=
  .object [("name", t.name), ("label", t.label), ("singular_label", t.singularLabel),
    ("hierarchical", t.hierarchical), ("builtin", t.builtin), ("archive_url", t.archiveUrl),
    ("taxonomies", t.taxonomies)]

end PostType

/-- A taxonomy: a set of terms for posts of some types. -/
structure Taxonomy where
  name : Value
  label : Value := .text ""
  hierarchical : Value := .bool false
  /-- The post types that have it; all do if there are none. -/
  objectTypes : Value := .list []
  deriving Inhabited

namespace Taxonomy

/-- Makes a taxonomy of the fields stored for it. -/
def ofEntries (e : Fields) : Except Fault Taxonomy := do
  checkKeys ["name", "label", "hierarchical", "object_types"] ["name", "label"] e
  return { name := given e "name", label := given e "label",
           hierarchical := given e "hierarchical" (.bool false),
           objectTypes := given e "object_types" (.list []) }

/-- A taxonomy as a value. -/
def toValue (t : Taxonomy) : Value :=
  .object [("name", t.name), ("label", t.label), ("hierarchical", t.hierarchical),
    ("object_types", t.objectTypes)]

end Taxonomy

end StructuredData
