import Mathlib.Data.List.Basic
import StructuredData.Value.Texts

/-!
# The texts in a value, by induction

The induction principle that follows the shape of values, and the texts of a container as those of
its parts.
-/

namespace StructuredData.Value

/-- **Induction on values**: what holds of scalars, and of containers if it holds of their parts,
holds of all values. -/
@[elab_as_elim]
theorem inductionOn {P : Value → Prop} (scalar : ∀ a, P (scalar a))
    (list : ∀ items, (∀ v ∈ items, P v) → P (list items))
    (object : ∀ fields, (∀ e ∈ fields, P e.2) → P (object fields)) : ∀ v, P v
  | .scalar a => scalar a
  | .list items => list items fun v _ => inductionOn scalar list object v
  | .object fields => object fields fun e _ => inductionOn scalar list object e.2
termination_by v => sizeOf v
decreasing_by
  · have := List.sizeOf_lt_of_mem ‹v ∈ items›
    simp only [Value.list.sizeOf_spec]
    omega
  · have := List.sizeOf_lt_of_mem ‹e ∈ fields›
    obtain ⟨k, v⟩ := e
    simp only [Value.object.sizeOf_spec, Prod.mk.sizeOf_spec] at this ⊢
    omega

/-! ## Texts of containers -/

theorem texts_text (s : String) : (text s).texts = [s] := by
  rw [texts]

theorem texts_list (items : List Value) : (list items).texts = items.flatMap texts := by
  rw [texts]
  induction items with
  | nil => rfl
  | cons v rest ih => rw [textsOfItems, ih, List.flatMap_cons]

theorem texts_object (fields : Fields) :
    (object fields).texts = fields.flatMap fun e => e.2.texts := by
  rw [texts]
  induction fields with
  | nil => rfl
  | cons e rest ih => rw [textsOfFields, ih, List.flatMap_cons]

/-- The texts in a list are those in its items. -/
theorem mem_texts_list {s : String} {items : List Value} :
    s ∈ (list items).texts ↔ ∃ v ∈ items, s ∈ v.texts := by
  rw [texts_list, List.mem_flatMap]

/-- The texts in an object are those in what stands under its keys. -/
theorem mem_texts_object {s : String} {fields : Fields} :
    s ∈ (object fields).texts ↔ ∃ e ∈ fields, s ∈ e.2.texts := by
  rw [texts_object, List.mem_flatMap]

end StructuredData.Value
