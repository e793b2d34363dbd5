import StructuredData.Rule.Match
import StructuredData.Schema.Basic

/-!
# Visibility of a schema

A schema is shown where one of its rules for showing matches and none of its rules against.
-/

namespace StructuredData.Schema

/-- Whether a schema is shown on a page. -/
def isVisible (ctx : PageContext) (d : Schema) : Except Fault Bool := do
  if ← d.showOn.applies ctx then return !(← d.notShowOn.applies ctx) else return false

/-- A schema without rules is never shown. -/
theorem isVisible_of_isEmpty (ctx : PageContext) (d : Schema) (h : d.showOn.isEmpty) :
    d.isVisible ctx = .ok false := by
  simp only [RuleSet.isEmpty, Bool.and_eq_true, List.isEmpty_iff] at h
  simp [isVisible, RuleSet.applies, h, pure, Except.pure, bind, Except.bind]

end StructuredData.Schema
