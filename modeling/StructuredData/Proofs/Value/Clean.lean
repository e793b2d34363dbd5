import Mathlib.Logic.Relation
import StructuredData.Proofs.Value.Prune

/-!
# The normal form of pruning

A value is in normal form if nothing inside it, at whatever depth, is void.  Taking out what is void
can make void what held it, but pruning comes to the normal form in one pass, and leaves alone just
the values that have it already (`Value.prune_reaches_normal_form`).
-/

namespace StructuredData.Value

/-- What is not worth publishing: null, false, what has nothing in it, and an object whose only key
is its type. -/
inductive IsVoid : Value → Prop
  | null : IsVoid null
  | no : IsVoid (bool false)
  | text : IsVoid (text "")
  | list : IsVoid (list [])
  | object : IsVoid (object [])
  | stub (type : Value) : IsVoid (object [(.text "@type", type)])

/-- Whether a value is part of another one: an item of a list or the value of an entry. -/
inductive IsPart : Value → Value → Prop
  | item {v : Value} {items : List Value} : v ∈ items → IsPart v (list items)
  | entry {e : Scalar × Value} {fields : Fields} : e ∈ fields → IsPart e.2 (object fields)

/-- Whether a value stands inside another one, at whatever depth. -/
def IsInside : Value → Value → Prop := Relation.TransGen IsPart

/-- Whether nothing inside a value is void.  The value itself may be. -/
def IsNormal (v : Value) : Prop := ∀ w, IsInside w v → ¬ IsVoid w

/-! ## What is void -/

/-- What is void is what is cut from the container that holds it. -/
theorem isDropped_iff_isVoid {v : Value} : v.isDropped = true ↔ IsVoid v := by
  constructor
  · intro h
    rcases Bool.or_eq_true_iff.mp h with hempty | hstub
    · cases v with
      | scalar a =>
        cases a with
        | null => exact .null
        | bool b =>
          obtain rfl : b = false := by simpa [isEmpty] using hempty
          exact .no
        | text s =>
          obtain rfl : s = "" := by simpa [isEmpty] using hempty
          exact .text
        | _ => cases hempty
      | list items =>
        obtain rfl := List.isEmpty_iff.mp hempty
        exact .list
      | object fields =>
        obtain rfl := List.isEmpty_iff.mp hempty
        exact .object
    · unfold isTypeStub at hstub
      split at hstub
      · obtain rfl := eq_of_beq hstub
        exact .stub _
      · cases hstub
  · rintro ⟨⟩ <;> rfl

/-! ## What stands inside -/

/-- **Induction on parts**: what holds of a value if it holds of its parts holds of all values. -/
theorem isPart_wellFounded : WellFounded IsPart := by
  refine ⟨fun v => ?_⟩
  induction v using inductionOn with
  | scalar a => exact ⟨_, fun u hu => nomatch hu⟩
  | list items ih =>
    refine ⟨_, fun u hu => ?_⟩
    cases hu with
    | item hu => exact ih u hu
  | object fields ih =>
    refine ⟨_, fun u hu => ?_⟩
    cases hu with
    | entry he => exact ih _ he

/-- What stands inside a value is part of it or stands inside a part. -/
theorem isInside_iff {w v : Value} :
    IsInside w v ↔ ∃ u, IsPart u v ∧ (w = u ∨ IsInside w u) := by
  rw [IsInside, Relation.TransGen.tail'_iff]
  simp only [Relation.reflTransGen_iff_eq_or_transGen, eq_comm, and_comm]

/-- Nothing inside a value is void if and only if none of its parts is and nothing inside them. -/
theorem isNormal_iff {v : Value} :
    IsNormal v ↔ ∀ u, IsPart u v → ¬ IsVoid u ∧ IsNormal u := by
  constructor
  · intro h u hu
    exact ⟨h u (isInside_iff.mpr ⟨u, hu, .inl rfl⟩),
      fun w hw => h w (isInside_iff.mpr ⟨u, hu, .inr hw⟩)⟩
  · intro h w hw
    obtain ⟨u, hu, rfl | hinside⟩ := isInside_iff.mp hw
    · exact (h w hu).1
    · exact (h u hu).2 w hinside

/-- The check goes through the parts of a value in the same way. -/
theorem isClean_iff {v : Value} :
    v.isClean = true ↔ ∀ u, IsPart u v → u.isDropped = false ∧ u.isClean = true := by
  cases v with
  | scalar a => exact ⟨fun _ u hu => (nomatch hu), fun _ => rfl⟩
  | list items =>
    rw [isClean, itemsClean_iff]
    constructor
    · intro h u hu
      cases hu with
      | item hu => exact h u hu
    · exact fun h u hu => h u (.item hu)
  | object fields =>
    rw [isClean, fieldsClean_iff]
    constructor
    · intro h u hu
      cases hu with
      | entry he => exact h _ he
    · exact fun h e he => h e.2 (.entry he)

/-- The values in normal form are those of which the check says so. -/
theorem isClean_iff_isNormal (v : Value) : v.isClean = true ↔ IsNormal v := by
  induction v using isPart_wellFounded.induction with
  | h v ih =>
    rw [isClean_iff, isNormal_iff]
    refine forall₂_congr fun u hu => ?_
    rw [← isDropped_iff_isVoid, Bool.not_eq_true, ih u hu]

/-- **Pruning reaches a normal form in one pass.**  Nothing inside a pruned value is void, at
whatever depth; the values that pruning leaves as they are are those of which this holds already;
and so pruning again changes nothing. -/
theorem prune_reaches_normal_form (v : Value) :
    IsNormal v.prune ∧ (v.prune = v ↔ IsNormal v) ∧ v.prune.prune = v.prune := by
  refine ⟨(isClean_iff_isNormal _).mp (isClean_prune v), ?_, prune_of_isClean (isClean_prune v)⟩
  rw [prune_eq_self_iff, isClean_iff_isNormal]

/-- A list goes with the object in it, and this one with the type that it is left with. -/
example : (object [("review", list [object [("@type", object [("@type", "Rating")])]]),
    ("price", int 0)]).prune = object [("price", int 0)] := rfl

end StructuredData.Value
