import StructuredData.Page.Basic
import StructuredData.Rule.Basic

/-!
# Matching rules

A rule is written as parts with bars between them and a specific as parts with dashes.  Reading and
matching are two steps: `Rule.ofToken` says what a text means, and `Rule.holds` whether that is the
case on a page.  A text that means nothing never matches.
-/

namespace StructuredData

/-- What a rule says of the page. -/
inductive Rule where
  | everywhere
  | onSingulars
  | onArchives
  | onKind (kind : PageKind)
  | onFrontPage
  /-- The archive of a post type, known to the site or not. -/
  | onShop (postType : String)
  /-- One post of a type, known to the site or not. -/
  | onPost (postType : String)
  /-- One post of a type that the site knows. -/
  | single (postType : String)
  /-- The archive of a post type that the site knows. -/
  | archive (postType : String)
  /-- The archive of a term, offered for a post type that the site knows. -/
  | termArchive (postType taxonomy : String)
  | productType (type : String)
  | never
  deriving Repr, DecidableEq

namespace Rule

/-- What a rule says about a post type after naming it. -/
def ofSelectors (postType : String) : List String → Rule
  | "archive" :: _ => archive postType
  | ["all"] => single postType
  | "all" :: "archive" :: _ => archive postType
  | "all" :: "" :: _ => single postType
  | "all" :: "taxarchive" :: taxonomy :: _ =>
    if taxonomy = "" then never else termArchive postType taxonomy
  | _ => never

/-- What the parts of a rule say. -/
def ofParts : List String → Rule
  | "basic-global" :: _ => everywhere
  | "basic-singulars" :: _ => onSingulars
  | "basic-archives" :: _ => onArchives
  | "special-404" :: _ => onKind .notFound
  | "special-search" :: _ => onKind .search
  | "special-blog" :: _ => onKind .blog
  | "special-front" :: _ => onFrontPage
  | "special-date" :: _ => onKind .dateArchive
  | "special-author" :: _ => onKind .authorArchive
  | "special-woo-shop" :: _ => onShop "product"
  | "page" :: "all" :: _ => onPost "page"
  | "page" :: "front" :: _ => onFrontPage
  | "page" :: _ => never
  | "product-type" :: type :: _ => if type = "" then never else productType type
  | "product-type" :: _ => never
  | postType :: selectors => ofSelectors postType selectors
  | [] => never

/-- What a written rule says. -/
def ofToken (token : String) : Rule := ofParts (Text.cut '|' (Text.strip token))

/-- Whether rules may speak of a post type: posts and products are always known. -/
def isKnown (ctx : PageContext) (postType : String) : Bool :=
  postType == "post" || postType == "product" || ctx.postTypes.contains (.text postType)

/-- Whether what a rule says is the case. -/
def holds (ctx : PageContext) : Rule → Bool
  | everywhere => true
  | onSingulars => ctx.page.isSingular
  | onArchives => ctx.page.isArchive
  | onKind kind => ctx.page.kind == kind
  | onFrontPage => ctx.page.isFrontPage
  | onShop postType => ctx.showsArchive postType
  | onPost postType => ctx.showsOne postType
  | single postType => isKnown ctx postType && ctx.showsOne postType
  | archive postType => isKnown ctx postType && ctx.showsArchive postType
  | termArchive postType taxonomy => isKnown ctx postType && ctx.showsTermOf taxonomy
  | productType type => ctx.showsOne "product" && ctx.productType.isText type
  | never => false

/-- Whether what a written rule says is the case; only a text is a written rule. -/
def applies (ctx : PageContext) : Value → Except Fault Bool
  | .text token => .ok ((ofToken token).holds ctx)
  | _ => .error .notAText

end Rule

/-- What a specific names. -/
inductive Specific where
  /-- The post with an id. -/
  | post (id : Int)
  /-- A post with a term, of a taxonomy or of any. -/
  | postWithTerm (id : Int) (taxonomy : Option String)
  /-- The archive of a term. -/
  | term (id : Int)
  | nothing
  deriving Repr, DecidableEq

namespace Specific

/-- What the parts of a specific after its kind name. -/
def ofTermParts (id : Int) : List String → Specific
  | "single" :: rest =>
    let taxonomy := "-".intercalate rest
    postWithTerm id (if taxonomy = "" then none else some taxonomy)
  | _ => term id

/-- What the parts of a specific name. -/
def ofParts : List String → Specific
  | kind :: number :: rest =>
    match readInteger number with
    | none => nothing
    | some id =>
      if kind = "post" ∨ kind = "page" ∨ kind = "product" then post id
      else if kind = "tax" then ofTermParts id rest
      else nothing
  | _ => nothing

/-- What a written specific names. -/
def ofToken (token : String) : Specific := ofParts (Text.cut '-' (Text.strip token))

/-- Whether the page shows what a specific names. -/
def holds (ctx : PageContext) : Specific → Except Fault Bool
  | post id => .ok (ctx.page.isSingular && ctx.page.objectId == some id)
  | postWithTerm id taxonomy =>
    if ctx.page.isSingular then ctx.hasTerm (.int id) (.ofText? taxonomy) else .ok false
  | term id => .ok (ctx.page.kind == .termArchive && ctx.page.objectId == some id)
  | nothing => .ok false

/-- Whether a written specific matches; only a text is a written specific. -/
def applies (ctx : PageContext) : Value → Except Fault Bool
  | .text token => (ofToken token).holds ctx
  | _ => .error .notAText

end Specific

/-- Whether a rule or a specific of a set matches. -/
def RuleSet.applies (ctx : PageContext) (s : RuleSet) : Except Fault Bool := do
  if ← s.rules.anyM (Rule.applies ctx) then return true
  else s.specifics.anyM (Specific.applies ctx)

end StructuredData
