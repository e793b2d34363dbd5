import StructuredData.Value.Basic

/-!
# Pruning

Empty parts are cut from a value before it is published: null, false, empty texts and containers,
and objects that are left with nothing but their type.  Zero stays.
-/

namespace StructuredData.Value

/-- Null, false, and whatever has nothing in it. -/
def isEmpty : Value → Bool
  | null => true
  | bool b => !b
  | text s => s == ""
  | list items => items.isEmpty
  | object fields => fields.isEmpty
  | _ => false

/-- An object whose only key is its type. -/
def isTypeStub : Value → Bool
  | object [(.text k, _)] => k == "@type"
  | _ => false

/-- Whether a value is cut from the container that holds it. -/
def isDropped (v : Value) : Bool := v.isEmpty || v.isTypeStub

/-- Puts an item before others unless it is dropped. -/
def keepItem (v : Value) (rest : List Value) : List Value :=
  if v.isDropped then rest else v :: rest

/-- Puts an entry before others unless its value is dropped. -/
def keepField (k : Scalar) (v : Value) (rest : Fields) : Fields :=
  if v.isDropped then rest else (k, v) :: rest

mutual

/-- Cuts the empty parts of a value; the value itself stays. -/
def prune : Value → Value
  | list items => list (pruneItems items)
  | object fields => object (pruneFields fields)
  | v => v

/-- Cuts the empty parts of the items of a list, and those that are empty then. -/
def pruneItems : List Value → List Value
  | [] => []
  | v :: rest => keepItem (prune v) (pruneItems rest)

/-- Cuts the empty parts of the entries of an object, and those that are empty then. -/
def pruneFields : List (Scalar × Value) → List (Scalar × Value)
  | [] => []
  | (k, v) :: rest => keepField k (prune v) (pruneFields rest)

end

/-! ## The normal form -/

mutual

/-- Whether nothing inside a value would be dropped. -/
def isClean : Value → Bool
  | list items => itemsClean items
  | object fields => fieldsClean fields
  | _ => true

/-- Whether no item of a list is dropped and all are clean. -/
def itemsClean : List Value → Bool
  | [] => true
  | v :: rest => !v.isDropped && isClean v && itemsClean rest

/-- Whether no entry of an object is dropped and all are clean. -/
def fieldsClean : List (Scalar × Value) → Bool
  | [] => true
  | (_, v) :: rest => !v.isDropped && isClean v && fieldsClean rest

end

end StructuredData.Value
