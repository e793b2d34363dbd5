import StructuredData.Facts.Collect
import StructuredData.Schema.Node
import StructuredData.Schema.Visibility
import StructuredData.Settings.Basic

/-!
# Documents

The document of a page holds the nodes of the schemas shown on it.  There is none if no node is
left.
-/

namespace StructuredData

/-- Runs a pass that starts with the notices given so far. -/
def Expansion.toLogged {α : Type} (act : Expansion α) : Logged α :=
  ExceptT.mk fun log =>
    let (r, pass) := StateT.run (ExceptT.run act) ({ log } : Pass)
    (r, pass.log)

/-- Keeps the items that pass a test which may give notices. -/
def filterLogged {α : Type} (test : α → Logged Bool) : List α → Logged (List α)
  | [] => return []
  | a :: rest => do
    let keep ← test a
    let rest ← filterLogged test rest
    return if keep then a :: rest else rest

namespace Document

/-- The schema that a stored entry describes, with the fields of the type it names. -/
def storedSchema (c : Catalog) (entry : Value) : Except Fault Schema := do
  let fields ← c.fields ((← entry.member "type").orElse "")
  Schema.read entry fields

/-- Whether a stored entry is an object; others are passed over. -/
def isEntry : Value → Bool
  | .object _ => true
  | _ => false

/-- The schemas that stored entries describe. -/
def storedSchemas (c : Catalog) (entries : List Value) : Except Fault (List Schema) :=
  (entries.filter isEntry).mapM (storedSchema c)

/-- The schemas that may be shown on a page: those stored for what it is about, else those of the
site, else those of the catalog. -/
def activeSchemas (settings : Settings) (r : Registry) (s : Source) (page : Page) :
    Except Fault (List Schema) := do
  let own := s.storedSchemas page
  if !own.isEmpty then storedSchemas r.catalog own
  else if settings.schemas.truthy then storedSchemas r.catalog (← settings.schemas.items)
  else r.catalog.all

/-- Whether a schema is shown on a page: its rules say so and no veto hides it. -/
def isShown (r : Registry) (ctx : PageContext) (d : Schema) : Logged Bool := do
  if ← d.isVisible ctx then r.allows d ctx else return false

/-- The schemas shown on a page. -/
def visibleSchemas (settings : Settings) (r : Registry) (s : Source) (page : Page) :
    Logged (List Schema) := do
  let ctx ← s.pageContext page
  let active ← activeSchemas settings r s page
  filterLogged (isShown r ctx) active

variable [Slugifier]

/-- The nodes of schemas of registered types, those that are empty left out. -/
def nodes (limits : Limits) (c : Catalog) (context : Value) : List Schema → Expansion (List Value)
  | [] => return []
  | d :: rest => do
    if ← c.contains d.type then
      let node ← d.node limits context
      let rest ← nodes limits c context rest
      return if node.isEmpty then rest else .object node :: rest
    else
      Expansion.tell (.unregistered d.title d.type)
      nodes limits c context rest

/-- The vocabulary of the nodes. -/
def vocabulary : String := "https://schema.org"

/-- The document with given nodes. -/
def ofNodes (nodes : List Value) : Option Value :=
  if nodes.isEmpty then none
  else some (.object [("@context", vocabulary), ("@graph", .list nodes)])

/-- The document of a page. -/
def ofPage (settings : Settings) (r : Registry) (s : Source) (page : Page) :
    Logged (Option Value) := do
  if settings.enabled then
    let r := r.freeze
    let visible ← visibleSchemas settings r s page
    if visible.isEmpty then return none
    else
      let context ← Facts.collect s (some r) page visible
      return ofNodes (← (nodes settings.limits r.catalog context visible).toLogged)
  else return none

/-- What extenders change in records while the document of a page is made. -/
def changes (settings : Settings) (r : Registry) (s : Source) (page : Page) :
    Logged (List (Origin × Route × Value)) := do
  if settings.enabled then
    let visible ← visibleSchemas settings r.freeze s page
    if visible.isEmpty then return []
    else return (← Facts.extended s (some r) page visible).changes
  else return []

/-- The source after the document of a page has been made. -/
def sourceAfter (settings : Settings) (r : Registry) (s : Source) (page : Page) : Source :=
  match (Logged.run (changes settings r s page)).1 with
  | .ok changes => { s with content := s.content.settle changes }
  | .error _ => s

end Document

end StructuredData
