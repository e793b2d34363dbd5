import StructuredData.Calendar.Reader
import StructuredData.Content.Entity
import StructuredData.Notice
import StructuredData.Value.Record

/-!
# The content of a site

Tables of records by id.  Of several records with one id the last one counts.
-/

namespace StructuredData

/-- The kinds of records that may have schemas stored for themselves. -/
inductive Owner where
  | post
  | term
  | user
  deriving Repr, DecidableEq

/-- The records of a site. -/
structure Content where
  site : Site := {}
  currentUser : Value := .null
  postTypes : List PostType := []
  taxonomies : List Taxonomy := []
  posts : List (Int × Post) := []
  /-- The ids of the terms of a post, by taxonomy. -/
  postTerms : List (Int × List (Scalar × List Int)) := []
  terms : List (Int × Term) := []
  users : List (Int × User) := []
  /-- The schemas stored for single records. -/
  stored : List ((Owner × Int) × List Value) := []
  products : List (Int × Product) := []
  productTypes : Fields := []
  /-- Whether products are sold at all. -/
  sells : Bool := false
  deriving Inhabited

namespace Content

/-! ## Reading -/

/-- A date from what is stored for it.  A text in no standard form is passed over with a notice. -/
def readDate : Value → Logged (Option Moment)
  | .moment t => return some t
  | .text s =>
    if s = "" then return none
    else match Moment.read s with
      | some t => return some t
      | none => do
        Logged.tell (.badDate s)
        return none
  | _ => return none

/-- Takes a key out of the entries of a record. -/
def take (key : String) (entries : Fields) : Value × Fields :=
  (given entries key .null, Assoc.erase (.text key) entries)

/-- The id of a record and its other entries. -/
def takeId (raw : Value) : Except Fault (Int × Fields) := do
  let entries ← raw.toRecord
  match entries.get? "id" with
  | some v => return (← v.toInteger, Assoc.erase (.text "id") entries)
  | none => .error (.missingKey "id")

/-- The ids of terms by taxonomy. -/
def readTermIds (v : Value) : Except Fault (List (Scalar × List Int)) := do
  (← (v.orElse (.object [])).entries).mapM fun (taxonomy, ids) => do
    return (taxonomy, ← (← ids.items).mapM Value.toInteger)

/-- Keeps the schemas stored for a record, if there are any. -/
def storeSchemas (owner : Owner) (id : Int) (v : Value) (c : Content) : Except Fault Content :=
  if v.truthy then do return { c with stored := Assoc.set (owner, id) (← v.items) c.stored }
  else .ok c

/-- Adds a post. -/
def addPost (c : Content) (raw : Value) : Logged Content := do
  let (id, entries) ← takeId raw
  let (terms, entries) := take "terms" entries
  let c := { c with postTerms := Assoc.set id (← readTermIds terms) c.postTerms }
  let (schemas, entries) := take "schemas" entries
  let c ← storeSchemas .post id schemas c
  let date ← readDate (given entries "date" .null)
  let modified ← readDate (given entries "modified_date" .null)
  return { c with posts := Assoc.set id (← Post.ofEntries id date modified entries) c.posts }

/-- Adds a term. -/
def addTerm (c : Content) (raw : Value) : Logged Content := do
  let (id, entries) ← takeId raw
  let (schemas, entries) := take "schemas" entries
  let c ← storeSchemas .term id schemas c
  return { c with terms := Assoc.set id (← Term.ofEntries id entries) c.terms }

/-- Adds a user. -/
def addUser (c : Content) (raw : Value) : Logged Content := do
  let (id, entries) ← takeId raw
  let (schemas, entries) := take "schemas" entries
  let c ← storeSchemas .user id schemas c
  return { c with users := Assoc.set id (← User.ofEntries id entries) c.users }

/-- The products of a mapping by id. -/
def readProducts (v : Value) : Except Fault (List (Int × Product)) := do
  let products ← (← v.entries).mapM fun e => do
    let id ← (Value.scalar e.1).toInteger
    return (id, ← Product.ofEntries (← recordEntries e.2))
  return Assoc.ofPairs products

/-- The content that a value describes. -/
def read (v : Value) : Logged Content := do
  let data ← (v.orElse (.object [])).entries
  let part := fun (key : String) => given data key .null
  let rows := fun (key : String) => ((part key).orElse (.list [])).items
  let site ← Site.ofEntries (← recordEntries ((part "site").orElse (.object [])))
  let postTypes ← (← rows "post_types").mapM fun r => do PostType.ofEntries (← recordEntries r)
  let taxonomies ← (← rows "taxonomies").mapM fun r => do Taxonomy.ofEntries (← recordEntries r)
  let c : Content := { site, currentUser := part "current_user", postTypes, taxonomies }
  let c ← (← rows "posts").foldlM addPost c
  let c ← (← rows "terms").foldlM addTerm c
  let c ← (← rows "users").foldlM addUser c
  let products ← readProducts ((part "products").orElse (.object []))
  let productTypes ← ((part "product_types").orElse (.object [])).toRecord
  return { c with products, productTypes,
                  sells := (data.get? "products").isSome || (data.get? "product_types").isSome }

end Content

end StructuredData
