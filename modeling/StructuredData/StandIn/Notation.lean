import StructuredData.Json.Reader
import StructuredData.Workspace.Basic

/-!
# A stand-in for the reader of data files

The program reads data files with a component of its own, which is no part of this library and knows
a larger notation.  This one stands in for it: a file holds JSON, or nothing, or one entry a line
with its key, a colon and its value, where a comment may follow.  A number with an exponent needs a
point in this notation; without one it is a text.  Nothing that is proved rests on it.
-/

namespace StructuredData.StandIn.Notation

/-- A bare word. -/
def word? (cs : List Char) : Option Scalar :=
  match Json.word? cs with
  | some (.float x) => some (if cs.contains '.' then .float x else .text (String.ofList cs))
  | a => a

/-! ## Lines -/

/-- A line up to its comment, which opens behind a blank or at the start. -/
def withoutComment (mayOpen : Bool) : List Char → List Char
  | [] => []
  | c :: rest => if c = '#' && mayOpen then [] else c :: withoutComment (isBlank c) rest

/-- The value of an entry: nothing is null, and what is no value otherwise is a text. -/
def entryValue (s : String) : Value :=
  if s = "" then .null else (Json.readWith word? s).getD (.text s)

/-- The entry on a line, none if the line is blank; an entry starts with its key. -/
def entry? (line : String) : Option (Option (Scalar × Value)) :=
  let cs := withoutComment true line.toList
  if cs.all isBlank then some none
  else match cs.takeWhile (· ≠ ':'), cs.dropWhile (· ≠ ':') with
    | c :: key, _ :: value =>
      if isBlank c then none
      else some (some (.text (Text.strip (String.ofList (c :: key))),
        entryValue (Text.strip (String.ofList value))))
    | _, _ => none

/-- The entries on the lines of a text. -/
def entries? (s : String) : Option Fields := do
  return Assoc.ofPairs ((← (Text.cut '\n' s).mapM entry?).filterMap id)

/-! ## Files -/

/-- Whether a data file may hold a character as such: control characters are written by number. -/
def isAllowed (c : Char) : Bool :=
  let n := c.toNat
  c = '\t' || c = '\n' || c = '\r' || (0x20 ≤ n && n ≤ 0x7E) || n = 0x85 ||
    (0xA0 ≤ n && n ≤ 0xFFFD) || 0x10000 ≤ n

/-- The value that the text of a data file denotes. -/
def read? (s : String) : Option Value :=
  if s.toList.all isBlank then some .null
  else Json.readWith word? s <|> (entries? s).map .object

end StructuredData.StandIn.Notation

namespace StructuredData.Workspace

/-- What the file under a path holds, null if it counts as empty. -/
def data (path text : String) : Except Fault Value :=
  if !text.toList.all StandIn.Notation.isAllowed then .error (.badCharacter path)
  else match StandIn.Notation.read? text with
    | some v => .ok v
    | none => .error (.unreadable path)

end StructuredData.Workspace
