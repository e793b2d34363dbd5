import StructuredData.Settings.Load

/-!
# Initial settings

The settings file that a new site starts with.  It spells out the usual settings.
-/

namespace StructuredData.Settings

/-- The lines of the initial settings file. -/
def initialLines : List String := [
  "# rankgraph configuration",
  "",
  "enable_schemas: true",
  "debug: false  # pretty-print JSON output",
  "",
  "# Placeholder expansion limits.",
  "max_depth: 10",
  "max_steps: 10000",
  "",
  "# Site-wide schema set. Leave empty to use the built-in defaults.",
  "schemas: []",
  "  # - title: Article",
  "  #   type: Article",
  "  #   show_on:",
  "  #     rules: [post|all]",
  "  #   fields:",
  "  #     \"@id\": \"%current.url%#%id%\"",
  "  #     headline: \"%post.title%\"",
  "",
  "# custom_types_dir: .rankgraph/types/"]

/-- The text of the initial settings file. -/
def initialText : String := String.join (initialLines.map (· ++ "\n"))

/-- The name of the initial settings file. -/
def initialName : String := "rankgraph.yml"

end StructuredData.Settings
