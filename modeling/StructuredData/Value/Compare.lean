import StructuredData.Value.Basic

/-!
# Comparing values

Scalars are compared by what they denote; objects are the same when they hold the same values under
the same keys, in any order.  What is no number is the same as itself, but equal to nothing.
-/

namespace StructuredData.Value

mutual

/-- Whether two values are the same. -/
def same : Value → Value → Bool
  | scalar a, w => match w with
    | scalar b => a == b
    | _ => false
  | list xs, w => match w with
    | list ys => sameItems xs ys
    | _ => false
  | object fs, w => match w with
    | object gs => fs.length == gs.length && sameFields fs gs
    | _ => false

/-- Whether two lists hold the same values. -/
def sameItems : List Value → List Value → Bool
  | [], [] => true
  | x :: xs, y :: ys => same x y && sameItems xs ys
  | _, _ => false

/-- Whether each entry of the first object has the same value in the second. -/
def sameFields : List (Scalar × Value) → List (Scalar × Value) → Bool
  | [], _ => true
  | (k, v) :: rest, gs =>
    (match gs.lookup k with
      | some w => same v w
      | none => false) && sameFields rest gs

end

/-- Whether a value is a float that is no number. -/
def isNoNumber : Value → Bool
  | scalar a => a.isNoNumber
  | _ => false

/-- Whether two values are equal. -/
def equals (v w : Value) : Bool := !v.isNoNumber && same v w

/-- Whether a list holds a value equal to the given one. -/
def memberOf (v : Value) (items : List Value) : Bool := items.any fun w => equals v w

/-- Whether a text occurs in another one. -/
def occursIn (needle : List Char) : List Char → Bool
  | [] => needle.isEmpty
  | c :: rest => needle.isPrefixOf (c :: rest) || occursIn needle rest

/-- Whether a value holds another one: as an item of a list, a key of an object, or a part of a
text. -/
def holds (whole part : Value) : Except Fault Bool :=
  match whole with
  | list items => .ok (memberOf part items)
  | object fields => (lookupKey fields part).map Option.isSome
  | text s =>
    match part with
    | text t => .ok (occursIn t.toList s.toList)
    | _ => .error .mismatched
  | _ => .error .notIterable

/-! ## Order -/

/-- Whether two values can be put in order. -/
def isComparable (v w : Value) : Bool :=
  match v, w with
  | scalar a, scalar b => (a.meaning.before? b.meaning).isSome
  | _, _ => false

/-- Whether one value may stand before another. -/
def mayPrecede (v w : Value) : Bool :=
  match v, w with
  | scalar a, scalar b => b.meaning.before? a.meaning != some true
  | _, _ => true

/-- Sorts a list by values that have to be of one kind if there are several. -/
def sortBy {α : Type} (f : α → Value) (l : List α) : Except Fault (List α) :=
  if l.length ≤ 1 || l.all fun a => l.all fun b => isComparable (f a) (f b) then
    .ok (l.mergeSort fun a b => mayPrecede (f a) (f b))
  else .error .mismatched

end StructuredData.Value
