import StructuredData.Document.Render
import StructuredData.Template.Variables

/-!
# Sessions

A registry in use: registrations and questions come one after the other.  An operation that reads
the types closes the registry before it does so, itself or through the operations that it is made
of, and from then on every registration is refused and changes nothing.
-/

namespace StructuredData

/-- What a registry can be asked to do. -/
inductive Request where
  | register (name : Value) (t : SchemaType)
  | extendFields (type : Value) (extension : FieldExtension)
  | addExtender (extender : ContextExtender)
  | addVeto (veto : Veto)
  | freeze
  | isFrozen
  | contains (name : Value)
  | names
  | type (name : Value)
  | fields (name : Value)
  | schema (name : Value)
  | schemas
  | listing
  | placeholders (s : Source)
  | document (settings : Settings) (s : Source) (page : Page)
  | allows (d : Schema) (ctx : PageContext)
  | extendContext (context : Value) (page : Page)

/-- What a registry answers. -/
inductive Reply where
  | done
  | flag (b : Bool)
  | names (l : List Scalar)
  | type (t : Option SchemaType)
  | fields (l : List Field)
  | schema (d : Option Schema)
  | schemas (l : List Schema)
  | listing (l : List Value)
  | placeholders (entries : Fields)
  | document (d : Option Value)
  | context (v : Value)
  deriving Inhabited

/-- A computation on a registry in use.  It may fail, may change the registry and gives notices;
what it has changed and told stays also when it fails. -/
abbrev Session (α : Type) := ExceptT Fault (StateM (Registry × Log)) α

namespace Session

/-! ## The registry in use -/

/-- A computation that gives notices, in a session. -/
def ofLogged {α : Type} (act : Logged α) : Session α :=
  ExceptT.mk fun (r, log) =>
    let (result, log) := StateT.run (ExceptT.run act) log
    (result, r, log)

/-- The registry as it is now. -/
def registry : Session Registry := return (← get).1

/-- The catalog as it is now. -/
def catalog : Session Catalog := return (← registry).catalog

/-- Adds something to the registry, which stays as it is if that is refused. -/
def add (addition : Registry → Logged Registry) : Session Unit := do
  let r ← ofLogged (addition (← registry))
  modify fun (_, log) => (r, log)

/-- Closes the registry for registrations. -/
def freeze : Session Unit := modify fun (r, log) => (r.freeze, log)

/-! ## Reading the types -/

/-- The names of the types, after which nothing may be registered. -/
def names : Session (List Scalar) := do
  freeze
  return (← catalog).names

/-- The type under a name, after which nothing may be registered. -/
def type? (name : Value) : Session (Option SchemaType) := do
  freeze
  (← catalog).type? name

/-- The fields of the type under a name, none if there is no such type. -/
def fields (name : Value) : Session (List Field) := do
  match ← type? name with
  | some t => (← catalog).extended (← name.key) t
  | none => return []

/-- The schema that the type under a name stands for. -/
def schema? (name : Value) : Session (Option Schema) := do
  match ← type? name with
  | some t => return some (← t.schema (← fields name))
  | none => return none

/-- The schemas that all types stand for. -/
def schemas : Session (List Schema) := do
  return (← (← names).mapM fun name => schema? (.scalar name)).filterMap id

/-- All types as they are offered to those who set up schemas. -/
def listing : Session (List Value) := do
  (← names).mapM fun name => do
    match ← type? (.scalar name) with
    | some t =>
      let title ← t.title
      return Catalog.offer name t title (← fields (.scalar name))
    | none => throw .notAnObject

/-! ## The site and its pages -/

variable [Slugifier]

/-- The placeholders of a site.  Those for taxonomies come before the types are read. -/
def placeholders (s : Source) : Session Fields := do
  let terms ← Variables.ofTaxonomies s
  Variables.sorted s terms (← schemas)

/-- The document of a page, for which the registry is closed if documents are made at all. -/
def document (settings : Settings) (s : Source) (page : Page) : Session (Option Value) := do
  if settings.enabled then freeze
  ofLogged (Document.ofPage settings (← registry) s page)

/-! ## Requests -/

/-- Does what is requested. -/
def perform : Request → Session Reply
  | .register name t => do
    add fun r => r.register name t
    return .done
  | .extendFields type extension => do
    add fun r => r.extendFields type extension
    return .done
  | .addExtender extender => do
    add fun r => r.addExtender extender
    return .done
  | .addVeto veto => do
    add fun r => r.addVeto veto
    return .done
  | .freeze => do
    freeze
    return .done
  | .isFrozen => return .flag (← registry).frozen
  | .contains name => return .flag (← (← catalog).contains name)
  | .names => return .names (← names)
  | .type name => return .type (← type? name)
  | .fields name => return .fields (← fields name)
  | .schema name => return .schema (← schema? name)
  | .schemas => return .schemas (← schemas)
  | .listing => return .listing (← listing)
  | .placeholders s => return .placeholders (← placeholders s)
  | .document settings s page => return .document (← document settings s page)
  | .allows d ctx => return .flag (← ofLogged ((← registry).allows d ctx))
  | .extendContext context page =>
    return .context (← ofLogged ((← registry).extendContext { facts := context } page)).facts

end Session

namespace Registry

variable [Slugifier]

/-- Handles a request: the answer, and the registry after it. -/
def handle (r : Registry) (q : Request) : StateM Log (Except Fault Reply × Registry) := fun log =>
  let (reply, r, log) := StateT.run (ExceptT.run (Session.perform q)) (r, log)
  ((reply, r), log)

/-- Handles requests one after the other. -/
def handleAll (r : Registry) : List Request → StateM Log (List (Except Fault Reply) × Registry)
  | [] => return ([], r)
  | q :: rest => do
    let (reply, r) ← r.handle q
    let (replies, r) ← r.handleAll rest
    return (reply :: replies, r)

end Registry

end StructuredData
