import StructuredData.Content.Origin
import StructuredData.Page.Basic
import StructuredData.Value.Route

/-!
# Sheets of facts

The facts for a page while they are being changed.  Some of them are no copies: they are tied to the
field of the record that holds them, or to a part of it.  A change inside such a fact is a change of
the record, and shows in all facts tied to it; a fact that is put in the place of another one is not
tied.
-/

namespace StructuredData

/-- A fact that is held by a record. -/
structure Tie where
  route : Route
  origin : Origin
  /-- Where in the field the fact is held. -/
  inner : Route := []

namespace Tie

/-- The ties of the items of a list that is tied itself. -/
def ofItems (count : Nat) (t : Tie) : List Tie :=
  (List.range count).map fun (n : Nat) =>
    { t with route := t.route ++ [.int n], inner := t.inner ++ [.int n] }

/-- What is left of a tie when the value at one of its ends, or one that holds it, gives way to
another value.  A list may give way to one that starts with its `kept` items; these stay tied. -/
def loosen (isEnd : Bool) (kept : Option Nat) (t : Tie) : List Tie :=
  match kept with
  | some count => if isEnd then t.ofItems count else [t]
  | none => []

/-- The ties that are left when the facts at a route give way to others. -/
def leave (route : Route) (kept : Option Nat) (t : Tie) : List Tie :=
  if route.isPrefixOf t.route then t.loosen (t.route == route) kept else [t]

/-- The ties that are left when a part of a field gives way to another one. -/
def leaveField (origin : Origin) (part : Route) (kept : Option Nat) (t : Tie) : List Tie :=
  if t.origin == origin && part.isPrefixOf t.inner then t.loosen (t.inner == part) kept else [t]

/-- Facts that show at a tie what is held now where another tie leads. -/
def follow (t other : Tie) (held facts : Value) : Except Fault Value :=
  if t.origin != other.origin then .ok facts
  else if t.inner.isPrefixOf other.inner then
    facts.changeAt (fun _ => .ok held) (t.route ++ other.inner.drop t.inner.length)
  else if other.inner.isPrefixOf t.inner then do
    let part ← held.partAt (t.inner.drop other.inner.length)
    facts.changeAt (fun _ => .ok part) t.route
  else .ok facts

end Tie

/-- The facts for a page and their ties. -/
structure Sheet where
  facts : Value
  ties : List Tie := []
  /-- What parts of fields of records have been changed to, in order. -/
  changes : List (Origin × Route × Value) := []

namespace Sheet

/-- The ties of the facts about a record, which are found under the name of a namespace. -/
def tiesOf (space : String) (holder : Holder) : List Tie :=
  holder.kept.map fun field => { route := [.text space, .text field], origin := ⟨holder, field⟩ }

/-- Changes what a container in a sheet has under a key.  Facts there are not tied any more, but for
the first items of a list that starts with the items it had; the record that holds the container, if
any, is changed as well. -/
def change (s : Sheet) (container : Route) (key : Scalar) (kept : Option Nat)
    (f : Value → Except Fault Value) : Except Fault Sheet := do
  let facts ← s.facts.changeAt f container
  let place := container ++ [key]
  let ties := s.ties.flatMap (Tie.leave place kept)
  match s.ties.find? fun t => t.route.isPrefixOf container with
  | none => return { s with facts, ties }
  | some tie =>
    let part := tie.inner ++ place.drop tie.route.length
    let ties := ties.flatMap (Tie.leaveField tie.origin part kept)
    let held ← facts.partAt tie.route
    let facts ← ties.foldlM (fun facts t => t.follow tie held facts) facts
    return { facts, ties, changes := s.changes ++ [(tie.origin, tie.inner, held)] }

end Sheet

/-- The content of a site after changes of parts of fields of its records. -/
def Content.settle (c : Content) (changes : List (Origin × Route × Value)) : Content :=
  changes.foldl (fun c (origin, part, v) => c.change origin fun held =>
    (held.changeAt (fun _ => .ok v) part).toOption.getD held) c

/-- A change of a sheet.  It may fail; what it has changed before stays changed. -/
abbrev Edit (α : Type) := ExceptT Fault (StateM Sheet) α

namespace Edit

/-- The part of the facts at the end of a route. -/
def partAt (route : Route) : Edit Value := do (← get).facts.partAt route

/-- Puts other facts in the place of all. -/
def replace (facts : Value) : Edit Unit := modify fun s => { s with facts, ties := [] }

/-- Puts a value under a key of a container.  If it is a list that starts with the items of the list
that was there, `kept` says how many these are. -/
def put (container : Route) (key : Scalar) (v : Value) (kept : Option Nat := none) :
    Edit Unit := do
  set (← (← get).change container key kept fun whole => whole.withPart key v)

/-- Removes what a container has under a key. -/
def remove (container : Route) (key : Scalar) : Edit Unit := do
  set (← (← get).change container key none (Value.withoutPart key))

/-- The key of a container that a value names. -/
def keyOf (container : Route) (name : Value) : Edit Scalar := do
  (← partAt container).ownKey (← name.key)

/-- The route to what a container has under a key. -/
def enter (container : Route) (name : Value) : Edit Route := do
  let key ← keyOf container name
  let _ ← (← partAt container).part key
  return container ++ [key]

/-- The route to what an object has under a key; an empty object is put where there is nothing. -/
def provide (container : Route) (name : Value) : Edit Route := do
  let entries ← (← partAt container).entries
  let key ← name.key
  unless Assoc.contains key entries do
    put container key (.object [])
  return container ++ [key]

end Edit

end StructuredData
