import StructuredData.Content.Source
import StructuredData.Text.Case

/-!
# Choosing rules

The rules that make sense for a site, in groups, for those who set up schemas.  The choice can be
narrowed to rules for single posts or for archives.
-/

namespace StructuredData.RuleOptions

/-- What a choice is narrowed to. -/
inductive Consider where
  | everything
  | single
  | archive
  deriving Repr, DecidableEq

/-- What a value narrows a choice to. -/
def Consider.read : Value → Except Fault Consider
  | .null => .ok .everything
  | .text "single" => .ok .single
  | .text "archive" => .ok .archive
  | .list _ | .object _ => .error .notAKey
  | v => .error (.unknownConsiderType v.toText)

/-- A labelled group of rules with their labels. -/
structure Group where
  label : String
  rules : Fields
  deriving Inhabited

/-- A group as a value. -/
def Group.toValue (g : Group) : Value :=
  .object [("label", .text g.label), ("value", .object g.rules)]

/-- The rules for all pages. -/
def basic : Consider → Fields
  | .everything => [("basic-global", "Entire Website"), ("basic-singulars", "All Singulars"),
      ("basic-archives", "All Archives")]
  | .single => [("basic-global", "Entire Website"), ("basic-singulars", "All Singulars")]
  | .archive => [("basic-global", "Entire Website"), ("basic-archives", "All Archives")]

/-- The rules for pages of their own kind that every site has. -/
def commonSpecial : Fields :=
  [("special-404", "404 Page"), ("special-search", "Search Page"),
    ("special-blog", "Blog / Posts Page"), ("special-front", "Front Page"),
    ("special-date", "Date Archive"), ("special-author", "Author Archive")]

/-- The rules for pages of their own kind. -/
def special (sells : Bool) : Fields :=
  if sells then Assoc.set "special-woo-shop" "Shop Page" commonSpecial else commonSpecial

/-- Post types that no rules are offered for. -/
def hiddenPostTypes : List String := ["attachment"]

/-- Taxonomies that no rules are offered for. -/
def hiddenTaxonomies : List String :=
  ["wp_theme", "wp_template_part_area", "link_category", "nav_menu", "post_format"]

/-- A label, which has to be a text. -/
def labelText : Value → Except Fault String
  | .text s => .ok s
  | _ => .error .notAText

/-- Whether a taxonomy belongs to a post type: one of the two names the other. -/
def belongs (t : PostType) (x : Taxonomy) : Except Fault Bool := do
  if ← x.objectTypes.holds t.name then return true
  else t.taxonomies.holds x.name

/-- The rules for the terms of the taxonomies that belong to a post type. -/
def termRules (t : PostType) : List Taxonomy → Except Fault Fields
  | [] => .ok []
  | x :: rest => do
    let here ←
      if ← belongs t x then do
        let label ← labelText x.label
        let rule := t.name.toText ++ "|all|taxarchive|" ++ x.name.toText
        pure [(Scalar.text rule, Value.text ("All " ++ Text.title label ++ " Archive"))]
      else pure []
    return here ++ (← termRules t rest)

/-- The key of the group for a label. -/
def groupKey (label : String) : String :=
  String.ofList ((Text.lower label).toList.map fun c => if c = ' ' then '-' else c)

/-- The group of a post type with its key. -/
def postTypeGroup (c : Consider) (taxonomies : List Taxonomy) (t : PostType) :
    Except Fault (String × Group) := do
  let given ← labelText t.label
  let label := Text.title given
  let key := groupKey given
  let singles : Fields :=
    if c = .archive then [] else [(.text (t.name.toText ++ "|all"), .text ("All " ++ label))]
  let archives ←
    if c = .single then pure []
    else do
      let own : Fields := if key = "pages" then []
        else [(.text (t.name.toText ++ "|all|archive"), .text ("All " ++ label ++ " Archive"))]
      pure (own ++ (← termRules t taxonomies))
  return (key, { label, rules := Assoc.ofPairs (singles ++ archives) })

/-- Adds a group to others; rules under a key that is taken go to the group that has it, unless
they are there. -/
def addGroup (groups : List (String × Group)) (e : String × Group) : List (String × Group) :=
  if e.2.rules.isEmpty then groups
  else match groups.lookup e.1 with
    | none => Assoc.set e.1 e.2 groups
    | some g =>
      let new := e.2.rules.filter fun r => !Assoc.contains r.1 g.rules
      Assoc.set e.1 { g with rules := g.rules ++ new } groups

/-- The rules for types of products. -/
def productRules (s : Source) : Except Fault Fields := do
  if s.sells then
    return Assoc.ofPairs ((← s.productTypes).map fun e =>
      (Scalar.text ("product-type|" ++ e.1.plainText), e.2))
  else return []

/-- Whether something has none of the names that nothing is offered for; it needs a name that can be
a key. -/
def isOffered (hidden : List String) (name : Value) : Except Fault Bool := do
  let key ← name.key
  return !hidden.any fun s => Scalar.text s == key

/-- The rules to choose from, in groups by key. -/
def groups (s : Source) (c : Consider) : Except Fault (List (String × Group)) := do
  let products ← productRules s
  let fixed : List (String × Group) :=
    [("basic", { label := "Basic", rules := basic c })] ++
    (if c = .single then []
      else [("special-pages", { label := "Special Pages", rules := special s.sells })]) ++
    (if products.isEmpty then []
      else [("product-types", { label := "Product Types", rules := products })])
  let postTypes ← s.postTypes.filterM fun t => isOffered hiddenPostTypes t.name
  let taxonomies ← s.taxonomies.filterM fun x => isOffered hiddenTaxonomies x.name
  let offered ← postTypes.mapM (postTypeGroup c taxonomies)
  return Assoc.set "specific-target"
    { label := "Specific Target",
      rules := [("specifics", "Specific Pages / Posts / Taxonomies, etc.")] }
    (offered.foldl addGroup fixed)

end StructuredData.RuleOptions
