import StructuredData.Proofs.Template.Nesting

/-!
# Wider limits

An expansion that is told of no limit does not depend on where the limits are: with wider ones it
takes the same steps, gives the same notices, those of cycles among them, and comes to the same
(`Value.expand_eq_of_le`).
-/

namespace StructuredData

open Expansion

/-- Whether a notice says that a limit on expansion has been hit. -/
def Notice.tellsLimit : Notice → Bool
  | tooDeep _ | outOfSteps _ => true
  | _ => false

/-- A wider limit leaves no fewer levels. -/
theorem Value.levels_ofInts_le {depth depth' steps steps' : Int} (h : depth ≤ depth')
    (v context : Value) :
    v.levels (.ofInts depth steps) context ≤ v.levels (.ofInts depth' steps') context :=
  Int.toNat_le_toNat h

/-- A budget that allows a step is not spent where it is larger. -/
theorem Limit.allowance_whole_any_of_le {steps steps' : Int} (h : steps ≤ steps') {k : Nat}
    (hspent : (whole steps').allowance.any (· ≤ k) = true) :
    (whole steps).allowance.any (· ≤ k) = true := by
  have hle := Int.toNat_le_toNat h
  simp only [allowance, Option.any_some, decide_eq_true_eq] at hspent ⊢
  omega

/-- Where no limit is told, the expansion of a value is followed by the one with wider limits. -/
theorem Value.follows_expand {depth depth' steps steps' : Int} (hdepth : depth ≤ depth')
    (hsteps : steps ≤ steps') (v context : Value) :
    Follows (fun n => n.tellsLimit = false) (v.expand (.ofInts depth steps) context)
      (v.expand (.ofInts depth' steps') context) := by
  refine (compatible_follows _).traverseTexts v fun s _ => ?_
  exact Template.follows_expandText (Limits.canBeTold_ofInts depth steps)
    (fun _ => Limit.allowance_whole_any_of_le hsteps) (fun _ h => by cases h)
    (fun _ h => by cases h) (v.levels_ofInts_le hdepth context) (List.Subset.refl [])
    (fun _ _ => List.Subset.refl []) s

/-- **Limits are invisible until they are hit.**  If neither too deep a nesting nor a spent budget
is told while a value is expanded, then wider limits change nothing: the result is the same, and so
are the steps taken and the notices given, in a pass of its own as well as in the course of
another one. -/
theorem Value.expand_eq_of_le {depth depth' steps steps' : Int} (hdepth : depth ≤ depth')
    (hsteps : steps ≤ steps') (v context : Value) {p : Pass} (hp : p.exhausted = false)
    (h : ∀ n ∈ (runFrom (v.expand (.ofInts depth steps) context) p).2.log,
      n.tellsLimit = false) :
    runFrom (v.expand (.ofInts depth' steps') context) p =
      runFrom (v.expand (.ofInts depth steps) context) p := by
  obtain ⟨notices, hlog, hsame⟩ := v.follows_expand hdepth hsteps context p
  have hquiet : ∀ n ∈ notices, n.tellsLimit = false := fun n hn => h n (by simp [hlog, hn])
  exact (hsame hp hquiet).2

/-- A value with a cycle, expanded within just as many levels and steps as it takes. -/
theorem Value.expand_eq_of_le_of_cycle :
    let context : Value := .object [("a", .text "x%b%"), ("b", .text "y%b%")]
    let v : Value := .list [.text "%a%", .text "%c%"]
    (2 : Int) ≤ 7 ∧ (3 : Int) ≤ 10000 ∧ ({} : Pass).exhausted = false ∧
      (∀ n ∈ (runFrom (v.expand (.ofInts 2 3) context) {}).2.log, n.tellsLimit = false) ∧
      (runFrom (v.expand (.ofInts 2 3) context) {}).2.steps = 3 ∧
      (runFrom (v.expand (.ofInts 2 3) context) {}).2.log.size = 1 ∧
      runFrom (v.expand (.ofInts 7 10000) context) {} =
        runFrom (v.expand (.ofInts 2 3) context) {} := by
  intro context v
  have h : ∀ n ∈ (runFrom (v.expand (.ofInts 2 3) context) {}).2.log, n.tellsLimit = false := by
    decide +kernel
  exact ⟨by decide, by decide, rfl, h, by decide +kernel, by decide +kernel,
    expand_eq_of_le (by decide) (by decide) v context rfl h⟩

end StructuredData
