import StructuredData.Value.Text

/-!
# Values as records

A record is stored as an object or as a row of pairs.
-/

namespace StructuredData.Value

/-- The two parts of an item that is to be an entry. -/
def pair (v : Value) : Except Fault (Scalar × Value) := do
  match ← v.items with
  | [k, w] => return (← k.key, w)
  | _ => .error .badPair

/-- A value as a mapping: an object, or the pairs that it consists of. -/
def toRecord : Value → Except Fault Fields
  | object fields => .ok fields
  | v => do
    let items ← v.items
    return Assoc.ofPairs (← items.mapM pair)

end StructuredData.Value
