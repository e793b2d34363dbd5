import StructuredData.Content.Basic

/-!
# Origins

Facts for a page hold some fields of records as they are stored, without a copy.  The origin of such
a value is the record and the field that hold it; a change inside the value is a change of the
record.
-/

namespace StructuredData

/-- What holds values: a record of the site, or the page shown. -/
inductive Holder where
  | site
  | post (id : Int)
  | term (id : Int)
  | user (id : Int)
  | product (id : Int)
  | postType (name : String)
  | page
  deriving Repr, DecidableEq

/-- A field of a record. -/
structure Origin where
  holder : Holder
  field : String
  deriving Repr, DecidableEq

namespace Holder

/-- The fields that facts hold as they are stored. -/
def kept : Holder → List String
  | site => ["url", "language", "icon"]
  | post _ => ["url", "slug", "thumbnail", "comment_count"]
  | term _ => ["slug", "taxonomy", "url"]
  | user _ => ["website_url", "nicename", "posts_url", "avatar"]
  | product _ => ["price", "price_with_tax", "low_price", "high_price", "offer_count", "sku",
      "stock", "currency", "rating", "review_count", "image", "image_width", "image_height",
      "sale_from", "sale_to"]
  | postType _ => ["archive_url"]
  | page => ["url"]

end Holder

/-- The site with the value of a field changed. -/
def Site.change (field : String) (f : Value → Value) (s : Site) : Site :=
  match field with
  | "url" => { s with url := f s.url }
  | "language" => { s with language := f s.language }
  | "icon" => { s with icon := f s.icon }
  | _ => s

/-- A post with the value of a field changed. -/
def Post.change (field : String) (f : Value → Value) (p : Post) : Post :=
  match field with
  | "url" => { p with url := f p.url }
  | "slug" => { p with slug := f p.slug }
  | "thumbnail" => { p with thumbnail := f p.thumbnail }
  | "comment_count" => { p with commentCount := f p.commentCount }
  | _ => p

/-- A term with the value of a field changed. -/
def Term.change (field : String) (f : Value → Value) (t : Term) : Term :=
  match field with
  | "slug" => { t with slug := f t.slug }
  | "taxonomy" => { t with taxonomy := f t.taxonomy }
  | "url" => { t with url := f t.url }
  | _ => t

/-- A user with the value of a field changed. -/
def User.change (field : String) (f : Value → Value) (u : User) : User :=
  match field with
  | "website_url" => { u with websiteUrl := f u.websiteUrl }
  | "nicename" => { u with nicename := f u.nicename }
  | "posts_url" => { u with postsUrl := f u.postsUrl }
  | "avatar" => { u with avatar := f u.avatar }
  | _ => u

/-- A product with the value of a field changed. -/
def Product.change (field : String) (f : Value → Value) (p : Product) : Product :=
  match field with
  | "price" => { p with price := f p.price }
  | "price_with_tax" => { p with priceWithTax := f p.priceWithTax }
  | "low_price" => { p with lowPrice := f p.lowPrice }
  | "high_price" => { p with highPrice := f p.highPrice }
  | "offer_count" => { p with offerCount := f p.offerCount }
  | "sku" => { p with sku := f p.sku }
  | "stock" => { p with stock := f p.stock }
  | "currency" => { p with currency := f p.currency }
  | "rating" => { p with rating := f p.rating }
  | "review_count" => { p with reviewCount := f p.reviewCount }
  | "image" => { p with image := f p.image }
  | "image_width" => { p with imageWidth := f p.imageWidth }
  | "image_height" => { p with imageHeight := f p.imageHeight }
  | "sale_from" => { p with saleFrom := f p.saleFrom }
  | "sale_to" => { p with saleTo := f p.saleTo }
  | _ => p

/-- A post type with the value of a field changed. -/
def PostType.change (field : String) (f : Value → Value) (t : PostType) : PostType :=
  match field with
  | "archive_url" => { t with archiveUrl := f t.archiveUrl }
  | _ => t

/-- Changes the record with an id. -/
def changeRecord {α : Type} (id : Int) (f : α → α) (table : List (Int × α)) : List (Int × α) :=
  table.map fun e => if e.1 = id then (e.1, f e.2) else e

/-- Changes the last record that passes a test. -/
def changeLast {α : Type} (test : α → Bool) (f : α → α) : List α → List α
  | [] => []
  | a :: rest =>
    if test a && !rest.any test then f a :: rest else a :: changeLast test f rest

/-- The content of a site with the value at an origin changed; a page is no part of the content. -/
def Content.change (c : Content) (o : Origin) (f : Value → Value) : Content :=
  match o.holder with
  | .site => { c with site := c.site.change o.field f }
  | .post id => { c with posts := changeRecord id (Post.change o.field f) c.posts }
  | .term id => { c with terms := changeRecord id (Term.change o.field f) c.terms }
  | .user id => { c with users := changeRecord id (User.change o.field f) c.users }
  | .product id => { c with products := changeRecord id (Product.change o.field f) c.products }
  | .postType name =>
    { c with postTypes := changeLast (·.name.isText name) (PostType.change o.field f) c.postTypes }
  | .page => c

end StructuredData
