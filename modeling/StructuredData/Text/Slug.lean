import StructuredData.Text.Blank
import StructuredData.Text.Digit
import StructuredData.Text.Runs

/-!
# Identifiers from labels

A label becomes an identifier in two stages.  A component from outside, the slugifier, spells it in
lower-case letters and digits with dashes between them; nothing here depends on how it does so.
Then every other character becomes an underscore, adjacent underscores become one, and the
underscores at the ends and the number at the start are taken off.
-/

namespace StructuredData

/-- A component that spells labels in plain letters.  It is chosen by whoever runs the library. -/
class Slugifier where
  /-- A label in lower-case letters and digits, with dashes between them. -/
  slugify : String → String

namespace Slug

/-- Writes an underscore in the place of each character that may not stand in an identifier. -/
def mask (cs : List Char) : List Char := cs.map fun c => if isSlugChar c || c = '_' then c else '_'

/-- Whether a character separates the parts of an identifier. -/
def isGap (c : Char) : Bool := c = ' ' || c = '_'

/-- Writes two or more separators in a row as one underscore; `c` stands before the text. -/
def collapseFrom (c : Char) : List Char → List Char
  | [] => [c]
  | d :: rest => if isGap c && isGap d then collapseFrom '_' rest else c :: collapseFrom d rest

/-- A text with one underscore in the place of two or more separators in a row. -/
def collapse : List Char → List Char
  | [] => []
  | c :: rest => collapseFrom c rest

/-- A text without the underscores at its ends. -/
def trim (cs : List Char) : List Char := Text.trimWhile (· = '_') cs

/-- The identifier that a slugified label comes to. -/
def ofSlugified (cs : List Char) : List Char :=
  trim ((trim (collapse (mask cs))).dropWhile isDecimal)

/-- The identifier of a label. -/
def ofText [Slugifier] (s : String) : String :=
  if s = "" then "" else String.ofList (ofSlugified (Slugifier.slugify s).toList)

end Slug

end StructuredData
