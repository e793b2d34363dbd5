import StructuredData.Registry.Basic
import StructuredData.SchemaType.Load

/-!
# The registry of a site

The built-in types and those that the site declares in files.
-/

namespace StructuredData.Registry

/-- The registry of a site, which may name a directory with types of its own. -/
def ofSite (w : Workspace) (site : String) (typesDir : Value) (sells : Bool) :
    Logged Registry := do
  let declared ← if typesDir.truthy then TypeFile.load w site typesDir else pure []
  build sells declared

end StructuredData.Registry
