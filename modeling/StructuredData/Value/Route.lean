import StructuredData.Value.Text

/-!
# Routes

A route leads to a part of a value by the keys of objects and the indexes of lists on the way to it.
Unlike the path of a template it has to lead somewhere.
-/

namespace StructuredData

/-- The keys and indexes on the way to a part of a value. -/
abbrev Route := List Scalar

namespace Value

/-- The place that a key stands for in a list of a length; one below zero counts from the end. -/
def placeIn (length : Nat) : Scalar → Option Nat
  | .bool b => if b.toNat < length then some b.toNat else none
  | .int n =>
    let m := if n < 0 then n + length else n
    if 0 ≤ m && m < length then some m.toNat else none
  | _ => none

/-- A key as a container has it: the keys of a list count from its start. -/
def ownKey (key : Scalar) : Value → Except Fault Scalar
  | list items =>
    match placeIn items.length key with
    | some n => .ok (.int n)
    | none => .error (.missingKey key.plainText)
  | object _ => .ok key
  | scalar _ => .error .notAnObject

/-- The part of a value under a key. -/
def part (key : Scalar) : Value → Except Fault Value
  | list items =>
    match (placeIn items.length key).bind fun n => items[n]? with
    | some v => .ok v
    | none => .error (.missingKey key.plainText)
  | object fields =>
    match fields.lookup key with
    | some v => .ok v
    | none => .error (.missingKey key.plainText)
  | scalar _ => .error .notAnObject

/-- A value with a part put under a key, which a list has to have. -/
def withPart (v : Value) (key : Scalar) (w : Value) : Except Fault Value :=
  match v with
  | list items =>
    match placeIn items.length key with
    | some n => .ok (list (items.set n w))
    | none => .error (.missingKey key.plainText)
  | object fields => .ok (object (Assoc.set key w fields))
  | scalar _ => .error .notAnObject

/-- A value without the part under a key, which it has to have. -/
def withoutPart (key : Scalar) : Value → Except Fault Value
  | list items =>
    match placeIn items.length key with
    | some n => .ok (list (items.eraseIdx n))
    | none => .error (.missingKey key.plainText)
  | object fields =>
    if Assoc.contains key fields then .ok (object (Assoc.erase key fields))
    else .error (.missingKey key.plainText)
  | scalar _ => .error .notARecord

/-- The part of a value at the end of a route. -/
def partAt : Route → Value → Except Fault Value
  | [], v => .ok v
  | key :: rest, v => do (← v.part key).partAt rest

/-- A value with the part at the end of a route changed. -/
def changeAt (f : Value → Except Fault Value) : Route → Value → Except Fault Value
  | [], v => f v
  | key :: rest, v => do v.withPart key (← (← v.part key).changeAt f rest)

end Value

end StructuredData
