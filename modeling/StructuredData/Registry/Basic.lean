import StructuredData.Facts.Sheet
import StructuredData.Registry.Catalog
import StructuredData.SchemaType.Builtin

/-!
# The registry

The catalog together with what a site adds to rendering: extenders, which change the facts that
templates can use, and vetoes, which hide schemas.  An extender or veto that fails is passed over
with a notice.
-/

namespace StructuredData

/-- Changes the facts for a page. -/
abbrev ContextExtender := Page → Edit Unit

/-- Says whether a schema may be shown. -/
abbrev Veto := Schema → PageContext → Except Fault Bool

/-- The schema types of a site and its extensions of rendering. -/
structure Registry where
  catalog : Catalog := {}
  extenders : List ContextExtender := []
  vetoes : List Veto := []
  deriving Inhabited

namespace Registry

/-- Whether nothing may be registered any more. -/
def frozen (r : Registry) : Bool := r.catalog.frozen

/-- The registry, closed for registrations. -/
def freeze (r : Registry) : Registry := { r with catalog := r.catalog.freeze }

theorem frozen_freeze (r : Registry) : r.freeze.frozen = true := rfl

/-- Registers a type under a name. -/
def register (r : Registry) (name : Value) (t : SchemaType) : Logged Registry := do
  return { r with catalog := ← r.catalog.register name t }

/-- Adds an extension of the fields of a type. -/
def extendFields (r : Registry) (type : Value) (extension : FieldExtension) :
    Except Fault Registry := do
  return { r with catalog := ← r.catalog.extendFields type extension }

/-- Adds a context extender behind the others. -/
def addExtender (r : Registry) (extender : ContextExtender) : Except Fault Registry :=
  if r.frozen then .error (.frozen .contextExtender)
  else .ok { r with extenders := r.extenders ++ [extender] }

/-- Adds a veto behind the others. -/
def addVeto (r : Registry) (veto : Veto) : Except Fault Registry :=
  if r.frozen then .error (.frozen .visibilityVeto)
  else .ok { r with vetoes := r.vetoes ++ [veto] }

theorem addExtender_of_frozen {r : Registry} (h : r.frozen = true) (extender : ContextExtender) :
    r.addExtender extender = .error (.frozen .contextExtender) := by
  simp [addExtender, h]

theorem addVeto_of_frozen {r : Registry} (h : r.frozen = true) (veto : Veto) :
    r.addVeto veto = .error (.frozen .visibilityVeto) := by
  simp [addVeto, h]

/-- Asks vetoes one after the other until one hides the schema. -/
def allVetoes (d : Schema) (ctx : PageContext) : List Veto → Logged Bool
  | [] => return true
  | veto :: rest =>
    match veto d ctx with
    | .ok true => allVetoes d ctx rest
    | .ok false => return false
    | .error _ => do
      Logged.tell .vetoFailed
      allVetoes d ctx rest

/-- Whether no veto hides a schema. -/
def allows (r : Registry) (d : Schema) (ctx : PageContext) : Logged Bool :=
  allVetoes d ctx r.vetoes

/-- Applies extenders one after the other.  One that fails keeps what it has changed. -/
def applyExtenders (page : Page) (sheet : Sheet) : List ContextExtender → Logged Sheet
  | [] => return sheet
  | extender :: rest => do
    let (result, sheet) := StateT.run (ExceptT.run (extender page)) sheet
    if result.toOption.isNone then Logged.tell .extenderFailed
    applyExtenders page sheet rest

/-- The facts for a page, changed by the extenders. -/
def extendContext (r : Registry) (sheet : Sheet) (page : Page) : Logged Sheet :=
  applyExtenders page sheet r.extenders

/-- Hides breadcrumbs on the front page. -/
def breadcrumbVeto : Veto := fun d ctx =>
  .ok !(d.type.isText "BreadcrumbList" && ctx.page.isFrontPage)

/-- Registers types under their own names. -/
def registerAll (r : Registry) : List SchemaType → Logged Registry
  | [] => return r
  | t :: rest => do registerAll (← r.register t.name t) rest

/-- The registry with the built-in types, types of the site, and the veto on breadcrumbs. -/
def build (sells : Bool) (custom : List SchemaType) : Logged Registry := do
  let r ← ({} : Registry).registerAll (SchemaType.builtin sells)
  let r ← r.registerAll custom
  r.addVeto breadcrumbVeto

end Registry

end StructuredData
