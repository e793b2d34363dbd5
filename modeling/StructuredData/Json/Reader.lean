import StructuredData.Json.Token
import StructuredData.Value.Basic

/-!
# Reading JSON

Tokens become a value by way of the containers that are still open.  Of several entries with one
key the last counts.
-/

namespace StructuredData.Json

/-- A container that is still open, its last item first. -/
inductive Frame where
  | list (done : List Value)
  | object (done : Fields) (key : String)

mutual

/-- Reads a value and what follows it; `fresh` tells whether a list has just been opened, which may
be empty. -/
def readValue (fresh : Bool) (stack : List Frame) : List Token → Option Value
  | .scalar a :: rest => give (.scalar a) stack rest
  | .text s :: rest => give (.text s) stack rest
  | .openList :: rest => readValue true (.list [] :: stack) rest
  | .openObject :: .closeObject :: rest => give (.object []) stack rest
  | .openObject :: .text k :: .colon :: rest => readValue false (.object [] k :: stack) rest
  | .closeList :: rest =>
    match fresh, stack with
    | true, _ :: stack => give (.list []) stack rest
    | _, _ => none
  | _ => none

/-- Hands a value to the container around it. -/
def give (v : Value) (stack : List Frame) : List Token → Option Value
  | [] => if stack.isEmpty then some v else none
  | .comma :: .text k :: .colon :: rest =>
    match stack with
    | .object done key :: stack =>
      readValue false (.object ((.text key, v) :: done) k :: stack) rest
    | _ => none
  | .comma :: rest =>
    match stack with
    | .list done :: stack => readValue false (.list (v :: done) :: stack) rest
    | _ => none
  | .closeList :: rest =>
    match stack with
    | .list done :: stack => give (.list (v :: done).reverse) stack rest
    | _ => none
  | .closeObject :: rest =>
    match stack with
    | .object done key :: stack =>
      give (.object (Assoc.ofPairs ((.text key, v) :: done).reverse)) stack rest
    | _ => none
  | _ => none

end

/-- The value that a text denotes, with a reading of bare words. -/
def readWith (word : List Char → Option Scalar) (s : String) : Option Value := do
  readValue false [] (← tokens? word (.bare []) s.toList)

/-- The value that a JSON text denotes. -/
def read (s : String) : Option Value := readWith word? s

end StructuredData.Json
