import StructuredData.Notice
import StructuredData.SchemaType.Builtin

/-!
# Declared types

A site may declare schema types of its own, in files in one directory.  A declaration takes over
from its base what it leaves out.  A declaration without a name is no type; one without fields
cannot be one, and ends the reading of its file.
-/

namespace StructuredData

/-- A schema type as a file declares it. -/
structure Declaration where
  /-- The name under which the file refers to it. -/
  key : String
  /-- The declaration or built-in type that it extends, if any. -/
  base : Option String := none
  name : Option Value := none
  title : Option Value := none
  docsUrl : Option Value := none
  /-- What holds the rules for where schemas are shown. -/
  rules : Option Value := none
  /-- What holds the ids of the fields, all of them required. -/
  fields : Option Value := none
  deriving Inhabited

/-- A file with declarations. -/
structure TypeFile where
  declarations : List Declaration := []
  /-- Further keys, with what they stand for: the key of a type, or a value that is no type. -/
  aliases : List (String × Value) := []
  /-- Whether declarations can extend the built-in article. -/
  usesArticle : Bool := false
  deriving Inhabited

/-- What a declaration makes of its base: a type whose name and fields may still be missing. -/
structure PartialType where
  name : Option Value := none
  title : Except Fault Value := .error (.undeclared "title")
  docsUrl : Value := ""
  showOn : Except Fault RuleSet := .error (.undeclared "show_on")
  notShowOn : RuleSet := {}
  fields : Option (Except Fault (List Field)) := none
  typeOptions : Value := .object []
  deriving Inhabited

namespace PartialType

/-- A type with all its parts. -/
def ofType (t : SchemaType) : PartialType :=
  { name := some t.name, title := t.title, docsUrl := t.docsUrl, showOn := t.showOn,
    notShowOn := t.notShowOn, fields := some t.fields, typeOptions := t.typeOptions }

/-- The rules that a declared value holds. -/
def declaredRules (v : Value) : Except Fault RuleSet := v.items.map fun rules => { rules }

/-- The fields whose ids a declared value holds. -/
def declaredFields (v : Value) : Except Fault (List Field) :=
  v.items.map fun ids => ids.map fun id => { id, required := true }

/-- The type with what a declaration says. -/
def extend (b : PartialType) (d : Declaration) : PartialType :=
  { b with
    name := d.name.or b.name
    title := (d.title.map .ok).getD b.title
    docsUrl := d.docsUrl.getD b.docsUrl
    showOn := (d.rules.map declaredRules).getD b.showOn
    fields := (d.fields.map declaredFields).or b.fields }

/-- The type, if it has a name and fields. -/
def complete? (p : PartialType) : Option SchemaType := do
  return { name := ← p.name, title := p.title, docsUrl := p.docsUrl, showOn := p.showOn,
           notShowOn := p.notShowOn, fields := ← p.fields, typeOptions := p.typeOptions }

end PartialType

namespace TypeFile

/-! ## Reading -/

/-- The text that a value is, if it is one. -/
def readText? : Value → Option String
  | .text s => some s
  | _ => none

/-- The declaration that a value describes. -/
def readDeclaration (v : Value) : Declaration :=
  let part := fun (key : String) => (v.entries.toOption.getD []).get? key
  { key := ((part "cls").bind readText?).getD "", base := (part "base").bind readText?,
    name := part "name", title := part "title", docsUrl := part "docs_url",
    rules := part "rules", fields := part "fields" }

/-- The file that a value describes. -/
def read (v : Value) : TypeFile :=
  let part := fun (key : String) => (v.member key).toOption.getD .null
  { declarations := ((part "classes").items.toOption.getD []).map readDeclaration,
    aliases := ((part "alias").entries.toOption.getD []).map fun e => (e.1.plainText, e.2),
    usesArticle := (part "reexport").truthy }

/-! ## What a file declares -/

/-- What keys stand for: a type, if it is one, and whether this file declares it. -/
abbrev Scope := List (String × Option (PartialType × Bool))

/-- The key of the type that says nothing, which all declarations extend in the end. -/
def rootKey : String := "SchemaType"

/-- The keys that are known before the first declaration. -/
def outerScope (f : TypeFile) : Scope :=
  (rootKey, some ({}, false)) ::
    if f.usesArticle then [("Article", some (.ofType SchemaType.article, false))] else []

/-- Whether a text can be a key: a word that does not start with a digit. -/
def isKey (s : String) : Bool :=
  match s.toList with
  | [] => false
  | c :: rest => !c.isDigit && (c :: rest).all fun c => c.isAlphanum || c = '_' || c.toNat ≥ 128

/-- Adds a declaration, whose base has to be a known type. -/
def declare (scope : Scope) (d : Declaration) : Option Scope := do
  guard (isKey d.key)
  let base ← (← scope.lookup (d.base.getD rootKey))
  return Assoc.set d.key (some (base.1.extend d, true)) scope

/-- Adds a further key, for a known one or for a value that is no type. -/
def addAlias (scope : Scope) (e : String × Value) : Option Scope := do
  guard (isKey e.1)
  match e.2 with
  | .text key => return Assoc.set e.1 (← scope.lookup key) scope
  | _ => return Assoc.set e.1 none scope

/-- All keys of a file, none if one refers to a key that is not known. -/
def scope? (f : TypeFile) : Option Scope := do
  let scope ← f.declarations.foldlM declare f.outerScope
  f.aliases.foldlM addAlias scope

/-- The types among declared ones, up to one that has a name and cannot be a type, and whether there
is none such. -/
def typesOf : List PartialType → List SchemaType × Bool
  | [] => ([], true)
  | p :: rest =>
    if p.name.isNone then typesOf rest
    else match p.complete? with
      | none => ([], false)
      | some t =>
        let (types, complete) := typesOf rest
        (t :: types, complete)

/-- The types that a file declares, by their keys in order, and whether it could be read to its
end. -/
def types (f : TypeFile) : List SchemaType × Bool :=
  match f.scope? with
  | some scope =>
    let sorted := scope.mergeSort fun a b => !(b.1 < a.1)
    typesOf ((sorted.filterMap (·.2)).filterMap fun e => if e.2 then some e.1 else none)
  | none => ([], false)

end TypeFile

end StructuredData
