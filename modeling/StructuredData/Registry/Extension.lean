import StructuredData.Registry.Basic
import StructuredData.Value.Compare

/-!
# Extensions described by values

Extenders and vetoes that are put together from paths, values and criteria.
-/

namespace StructuredData

namespace Value

/-- A number as a whole number or as a float; truth values count as one and zero. -/
def asNumber? : Value → Option (Int ⊕ Float)
  | bool b => some (.inl (if b then 1 else 0))
  | int n => some (.inl n)
  | float x => some (.inr x)
  | _ => none

/-- The float nearest to a whole number, which may be too large to have one. -/
def nearestFloat (n : Int) : Except Fault Float :=
  let x := Float.ofInt n
  if x.isInf then .error .tooLarge else .ok x

/-- How many items a list has, none if a value is no list. -/
def itemCount? : Value → Option Nat
  | list items => some items.length
  | _ => none

/-- Two values put together: texts and lists end to end, numbers by adding. -/
def append : Value → Value → Except Fault Value
  | text s, text t => .ok (text (s ++ t))
  | list xs, list ys => .ok (list (xs ++ ys))
  | v, w =>
    match asNumber? v, asNumber? w with
    | some (.inl m), some (.inl n) => .ok (int (m + n))
    | some (.inl m), some (.inr y) => (nearestFloat m).map fun x => float (x + y)
    | some (.inr x), some (.inl n) => (nearestFloat n).map fun y => float (x + y)
    | some (.inr x), some (.inr y) => .ok (float (x + y))
    | _, _ => .error .mismatched

end Value

namespace ContextExtender

/-- Puts a value in the place of the facts. -/
def replace (v : Value) : ContextExtender := fun _ => Edit.replace v

/-- Drops a key of the facts. -/
def drop (name : Value) : ContextExtender := fun _ => do
  Edit.remove [] (← Edit.keyOf [] name)

/-- Sets the fact at the end of a path, making objects where there is nothing on the way. -/
def set (path : List Value) (v : Value) : ContextExtender := fun _ => do
  match path.getLast? with
  | some name => do
    let container ← path.dropLast.foldlM Edit.provide []
    Edit.put container (← Edit.keyOf container name) v
  | none => throw .notAnObject

/-- Appends to the fact at the end of a path, which has to be there. -/
def append (path : List Value) (v : Value) : ContextExtender := fun _ => do
  match path.getLast? with
  | some name => do
    let container ← path.dropLast.foldlM Edit.enter []
    let key ← Edit.keyOf container name
    let old ← (← Edit.partAt container).part key
    Edit.put container key (← old.append v) old.itemCount?
  | none => throw .notAnObject

/-- Always fails. -/
def fail : ContextExtender := fun _ => throw .notOffered

end ContextExtender

/-- What a veto looks at; a criterion that is none is not looked at. -/
structure Veto.Criteria where
  type : Option Value := none
  title : Option Value := none
  kind : Option Value := none
  front : Option Value := none
  productType : Option Value := none

namespace Veto

/-- Whether a criterion is met by a value. -/
def meets (criterion : Option Value) (v : Value) : Bool :=
  match criterion with
  | some w => v.equals w
  | none => true

/-- Hides the schemas that meet all criteria. -/
def hide (c : Criteria) : Veto := fun d ctx =>
  .ok !(meets c.type d.type && meets c.title d.title &&
    meets c.kind (.text ctx.page.kind.name) && meets c.front (.bool ctx.page.isFrontPage) &&
    meets c.productType ctx.productType)

/-- Always gives the same answer. -/
def constant (b : Bool) : Veto := fun _ _ => .ok b

/-- Always fails. -/
def fail : Veto := fun _ _ => .error .notOffered

end Veto

end StructuredData
