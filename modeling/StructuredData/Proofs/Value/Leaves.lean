import StructuredData.Proofs.Value.Clean
import StructuredData.Value.Leaves

/-!
# What pruning keeps

A value that is dropped has no leaves but under the key of a type: it is empty, or nothing is left
in it but its type.  So pruning keeps all other leaves, each under its keys and in its place
(`Value.leaves_prune`).
-/

namespace StructuredData

namespace Leaf

/-- Below the key of a type no leaf is untyped, and below others a leaf stays what it is. -/
theorem isUntyped_under (k : Scalar) (l : Leaf) :
    (l.under k).isUntyped = (!(Scalar.text "@type" == k) && l.isUntyped) := by
  rw [isUntyped, under, List.contains_cons, Bool.not_or]
  rfl

/-- The untyped leaves under a key. -/
theorem filter_isUntyped_under (k : Scalar) (ls : List Leaf) :
    (ls.map (under k)).filter isUntyped =
      if (Scalar.text "@type" == k) = true then [] else (ls.filter isUntyped).map (under k) := by
  rw [List.filter_map]
  by_cases hk : (Scalar.text "@type" == k) = true
  · rw [if_pos hk]
    simp [isUntyped_under, hk]
  · rw [if_neg hk]
    congr 2
    funext l
    simp [isUntyped_under, hk]

end Leaf

namespace Value

/-! ## Leaves of containers -/

/-- The leaves of a list are those of its items. -/
theorem leaves_list (items : List Value) : (list items).leaves = items.flatMap leaves := by
  rw [leaves]
  induction items with
  | nil => rfl
  | cons v rest ih => rw [leavesOfItems, ih, List.flatMap_cons]

/-- The leaves of an object are those of its values, under their keys. -/
theorem leaves_object (fields : Fields) :
    (object fields).leaves = fields.flatMap fun e => e.2.leaves.map (Leaf.under e.1) := by
  rw [leaves]
  induction fields with
  | nil => rfl
  | cons e rest ih => rw [leavesOfFields, ih, List.flatMap_cons]

/-- The untyped leaves of a value. -/
def untypedLeaves (v : Value) : List Leaf := v.leaves.filter Leaf.isUntyped

/-- The same without what stands under `@type`. -/
theorem untypedLeaves_list (items : List Value) :
    (list items).untypedLeaves = items.flatMap untypedLeaves := by
  rw [untypedLeaves, leaves_list, List.filter_flatMap]
  rfl

/-- An entry under `@type` has no leaves that count here. -/
theorem untypedLeaves_object (fields : Fields) :
    (object fields).untypedLeaves = fields.flatMap fun e =>
      if (Scalar.text "@type" == e.1) = true then []
      else e.2.untypedLeaves.map (Leaf.under e.1) := by
  rw [untypedLeaves, leaves_object, List.filter_flatMap]
  simp only [Leaf.filter_isUntyped_under]
  rfl

/-! ## What is dropped -/

/-- With what is void nothing is lost. -/
theorem IsVoid.untypedLeaves_eq_nil {v : Value} (h : IsVoid v) : v.untypedLeaves = [] := by
  cases h with
  | stub type =>
    rw [untypedLeaves_object, List.flatMap_singleton, if_pos BEq.rfl]
  | _ => rfl

/-- What reads nothing off void items reads the same of the items that are kept. -/
theorem flatMap_keepItem {β : Type} {f : Value → List β} (hf : ∀ v, IsVoid v → f v = [])
    (v : Value) (rest : List Value) : (keepItem v rest).flatMap f = f v ++ rest.flatMap f := by
  unfold keepItem
  split
  · rename_i hdropped
    rw [hf v (isDropped_iff_isVoid.mp hdropped), List.nil_append]
  · rw [List.flatMap_cons]

/-- What reads nothing off void values reads the same of the entries that are kept. -/
theorem flatMap_keepField {β : Type} {f : Scalar × Value → List β}
    (hf : ∀ k v, IsVoid v → f (k, v) = []) (k : Scalar) (v : Value) (rest : Fields) :
    (keepField k v rest).flatMap f = f (k, v) ++ rest.flatMap f := by
  unfold keepField
  split
  · rename_i hdropped
    rw [hf k v (isDropped_iff_isVoid.mp hdropped), List.nil_append]
  · rw [List.flatMap_cons]

/-- **Pruning loses nothing but emptiness.**  The leaves under whose keys there is no `@type` are
the same before and after pruning: the same values under the same keys, in the same order. -/
theorem leaves_prune (v : Value) :
    v.prune.leaves.filter Leaf.isUntyped = v.leaves.filter Leaf.isUntyped := by
  show v.prune.untypedLeaves = v.untypedLeaves
  induction v using inductionOn with
  | scalar a => rw [prune_scalar]
  | list items ih =>
    rw [prune, untypedLeaves_list, untypedLeaves_list]
    induction items with
    | nil => rfl
    | cons v rest ihrest =>
      rw [pruneItems, flatMap_keepItem fun v hv => hv.untypedLeaves_eq_nil, List.flatMap_cons,
        ih v (by simp), ihrest fun w hw => ih w (by simp [hw])]
  | object fields ih =>
    rw [prune, untypedLeaves_object, untypedLeaves_object]
    induction fields with
    | nil => rfl
    | cons e rest ihrest =>
      rw [pruneFields, flatMap_keepField, List.flatMap_cons, ih e (by simp),
        ihrest fun e' he' => ih e' (by simp [he'])]
      intro k v hv
      rw [hv.untypedLeaves_eq_nil, List.map_nil, ite_self]

end Value

end StructuredData
