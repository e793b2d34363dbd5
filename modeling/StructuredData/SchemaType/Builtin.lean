import StructuredData.SchemaType.Agent
import StructuredData.SchemaType.Work

/-!
# The built-in types
-/

namespace StructuredData.SchemaType

/-- The types that every site has. -/
def common : List SchemaType :=
  [webSite, webPage, organization, breadcrumbList, article, searchAction, person]

/-- The built-in types; the product is one of them where products are sold. -/
def builtin (sells : Bool) : List SchemaType := common ++ if sells then [product] else []

end StructuredData.SchemaType
