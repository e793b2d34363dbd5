import StructuredData.Fault
import StructuredData.Json.Printer

/-!
# Scripts

A document is embedded into a page as a script element.  In the JSON text the slash of each closing
tag is escaped, so that nothing in it ends the element.
-/

namespace StructuredData

/-- Refuses a scalar that has no form in JSON: a moment, and a whole number with too many digits. -/
def Scalar.checkWritable : Scalar → Except Fault Unit
  | moment _ => .error .notWritable
  | int n => if (Nat.toDigits 10 n.natAbs).length ≤ digitLimit then .ok () else .error .tooLong
  | _ => .ok ()

mutual

/-- Refuses a value that has no form in JSON, for the first scalar in it that has none. -/
def Value.checkWritable : Value → Except Fault Unit
  | .scalar a => a.checkWritable
  | .list items => Value.checkItems items
  | .object fields => Value.checkFields fields

/-- Refuses a list with an item that has no form in JSON. -/
def Value.checkItems : List Value → Except Fault Unit
  | [] => .ok ()
  | v :: rest => do
    v.checkWritable
    Value.checkItems rest

/-- Refuses an object with a key or value that has no form in JSON. -/
def Value.checkFields : List (Scalar × Value) → Except Fault Unit
  | [] => .ok ()
  | (k, v) :: rest => do
    k.checkWritable
    v.checkWritable
    Value.checkFields rest

end

namespace Document

/-- Escapes the slash of each closing tag. -/
def escapeClosing : List Char → List Char
  | '<' :: '/' :: rest => '<' :: '\\' :: '/' :: escapeClosing rest
  | c :: rest => c :: escapeClosing rest
  | [] => []

/-- The layout of a document. -/
def layout (debug : Bool) : Json.Layout := if debug then .readable else .compact

/-- The JSON text of a document, none if there is nothing in it. -/
def json (debug : Bool) (v : Value) : Except Fault (Option String) := do
  if v.truthy then
    v.checkWritable
    return some (String.ofList (escapeClosing (Json.valueChars (layout debug) 0 v)))
  else return none

/-- The opening tag of the script element. -/
def openTag : String := "<script type=\"application/ld+json\" id=\"rankgraph-schema\">"

/-- The script element of a document, none if there is nothing in it. -/
def script (debug : Bool) (v : Value) : Except Fault (Option String) := do
  return (← json debug v).map fun text => openTag ++ text ++ "</script>"

end Document

end StructuredData
