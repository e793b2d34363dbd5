import StructuredData.Value.Text

/-!
# Display rules

Where a schema is shown is said by two kinds of texts: rules, which speak of kinds of pages, and
specifics, which name single posts and terms.
-/

namespace StructuredData

/-- Rules and specifics, of which one has to match. -/
structure RuleSet where
  rules : List Value := []
  specifics : List Value := []
  deriving Inhabited

namespace RuleSet

/-- Whether there is nothing in a set. -/
def isEmpty (s : RuleSet) : Bool := s.rules.isEmpty && s.specifics.isEmpty

/-- The texts of what a stored value consists of, none if the value does not count as given. -/
def readTexts (v : Value) : Except Fault (List Value) := do
  return (← (v.orElse (.list [])).items).map fun item => .text item.toText

/-- The set that a stored value describes. -/
def read (v : Value) : Except Fault RuleSet := do
  let v := v.orElse (.object [])
  let rules ← readTexts (← v.member "rules")
  let specifics ← readTexts (← v.member "specific")
  return { rules, specifics }

/-- The stored form of a set. -/
def toValue (s : RuleSet) : Value :=
  .object [("rules", .list s.rules), ("specific", .list s.specifics)]

end RuleSet

end StructuredData
