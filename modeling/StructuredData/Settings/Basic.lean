import StructuredData.Content.Entity
import StructuredData.Template.Limit

/-!
# Settings

How a site wants its pages to be rendered.
-/

namespace StructuredData

/-- The settings of a site. -/
structure Settings where
  enabled : Bool := true
  /-- Whether documents are laid out for readers. -/
  debug : Bool := false
  limits : Limits := {}
  /-- The schemas of the whole site, those of the catalog if there are none. -/
  schemas : Value := .list []
  /-- The directory with schema types of the site. -/
  typesDir : Value := .null

namespace Settings

/-- Settings as they are given, unchecked but for their names. -/
def ofEntries (e : Fields) : Except Fault Settings := do
  checkKeys ["enable_schemas", "debug", "max_depth", "max_steps", "schemas", "custom_types_dir"]
    [] e
  return { enabled := (given e "enable_schemas" true).truthy,
           debug := (given e "debug" false).truthy, limits := Limits.ofEntries e,
           schemas := given e "schemas" (.list []), typesDir := given e "custom_types_dir" .null }

/-- Settings as a value. -/
def toValue (s : Settings) : Value :=
  .object [("enable_schemas", s.enabled), ("debug", s.debug),
    ("max_depth", s.limits.depth.toValue), ("max_steps", s.limits.steps.toValue),
    ("schemas", s.schemas), ("custom_types_dir", s.typesDir)]

end Settings

end StructuredData
