import StructuredData.Value.Basic

/-!
# The texts in a value

The texts at the leaves of a value, and changing them in order with the rest kept as it is.
-/

namespace StructuredData.Value

variable {m : Type → Type} [Monad m]

mutual

/-- Replaces each text of a value by what an action makes of it, from left to right. -/
def traverseTexts (f : String → m Value) : Value → m Value
  | text s => f s
  | list items => do
    let items ← traverseItems f items
    return list items
  | object fields => do
    let fields ← traverseFields f fields
    return object fields
  | v => return v

/-- The same for each item of a list. -/
def traverseItems (f : String → m Value) : List Value → m (List Value)
  | [] => return []
  | v :: rest => do
    let v ← traverseTexts f v
    let rest ← traverseItems f rest
    return v :: rest

/-- The same for each entry of an object. -/
def traverseFields (f : String → m Value) :
    List (Scalar × Value) → m (List (Scalar × Value))
  | [] => return []
  | (k, v) :: rest => do
    let v ← traverseTexts f v
    let rest ← traverseFields f rest
    return (k, v) :: rest

end

mutual

/-- The texts at the leaves of a value, from left to right. -/
def texts : Value → List String
  | text s => [s]
  | list items => textsOfItems items
  | object fields => textsOfFields fields
  | _ => []

/-- The texts in the items of a list. -/
def textsOfItems : List Value → List String
  | [] => []
  | v :: rest => texts v ++ textsOfItems rest

/-- The texts in the entries of an object. -/
def textsOfFields : List (Scalar × Value) → List String
  | [] => []
  | (_, v) :: rest => texts v ++ textsOfFields rest

end

end StructuredData.Value
