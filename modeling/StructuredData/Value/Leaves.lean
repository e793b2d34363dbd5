import StructuredData.Value.Basic

/-!
# The leaves of a value

What a value says stands at its leaves: the scalars in it, each under the keys that lead to it.  The
place of an item in a list does not count.
-/

namespace StructuredData

/-- Whether a scalar says something: all do but null, false and the empty text.  Zero does. -/
def Scalar.isLeaf : Scalar → Bool
  | .null => false
  | .bool b => b
  | .text s => s != ""
  | _ => true

/-- A scalar in a value and the keys that lead to it, outermost first. -/
structure Leaf where
  path : List Scalar
  value : Scalar

namespace Leaf

/-- A leaf of what stands under a key. -/
def under (k : Scalar) (l : Leaf) : Leaf := { l with path := k :: l.path }

/-- Whether no key that leads to a leaf is that of a type. -/
def isUntyped (l : Leaf) : Bool := !l.path.contains (.text "@type")

end Leaf

namespace Value

mutual

/-- The leaves of a value, from left to right. -/
def leaves : Value → List Leaf
  | scalar a => if a.isLeaf then [⟨[], a⟩] else []
  | list items => leavesOfItems items
  | object fields => leavesOfFields fields

/-- The leaves in the items of a list. -/
def leavesOfItems : List Value → List Leaf
  | [] => []
  | v :: rest => leaves v ++ leavesOfItems rest

/-- The leaves in the entries of an object. -/
def leavesOfFields : List (Scalar × Value) → List Leaf
  | [] => []
  | (k, v) :: rest => (leaves v).map (Leaf.under k) ++ leavesOfFields rest

end

end Value

end StructuredData
