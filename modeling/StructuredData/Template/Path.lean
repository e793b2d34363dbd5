import StructuredData.Value.Basic

/-!
# Paths

A path names a place in a value by keys and list indexes.  In the token of a placeholder these are
texts with dots between them, so that an index is written in digits.
-/

namespace StructuredData

/-- The segments of a path. -/
abbrev Path := List Value

namespace Path

/-- The path that a token names. -/
def ofToken (token : String) : Path := (Text.cut '.' token).map .text

/-- A written segment as a list index, none if it is not made of digits.  Digits of no decimal
system, or too many of them, make a fault. -/
def index? (segment : String) : Except Fault (Option Nat) :=
  let cs := segment.toList
  if cs.isEmpty || !cs.all isDigitLike then .ok none
  else if cs.length ≤ digitLimit then
    match readDecimal cs 0 with
    | some n => .ok (some n)
    | none => .error (.badInteger segment)
  else .error (.badInteger segment)

end Path

/-- The value at a path, null where there is none. -/
def Value.at : Path → Value → Except Fault Value
  | [], v => .ok v
  | key :: rest, object fields => do
    match ← lookupKey fields key with
    | some v => v.at rest
    | none => return null
  | key :: rest, list items =>
    match key with
    | text segment => do
      match ← Path.index? segment with
      | some n =>
        match items[n]? with
        | some v => v.at rest
        | none => return null
      | none => return null
    | _ => .error .notAText
  | _ :: _, scalar _ => .ok null

end StructuredData
