import StructuredData.Value.Basic

/-!
# Writing JSON

A value as JSON text, on one line or with one entry a line.
-/

namespace StructuredData.Json

/-- How a document is laid out. -/
structure Layout where
  /-- The indentation per level, none for a single line. -/
  indent : Option Nat := none
  /-- Whether a blank stands behind each comma and colon of a single line. -/
  spaced : Bool := false
  /-- Whether characters beyond ASCII are written by number. -/
  ascii : Bool := false
  deriving Repr, DecidableEq

/-- One line without blanks. -/
def Layout.compact : Layout := {}

/-- One entry a line, two blanks per level. -/
def Layout.readable : Layout := { indent := some 2 }

/-- A hexadecimal digit. -/
def hexDigit (n : Nat) : Char := if n < 10 then Char.ofNat (48 + n) else Char.ofNat (87 + n)

/-- A unit of sixteen bits by number. -/
def escapedUnit (n : Nat) : List Char :=
  ['\\', 'u', hexDigit (n / 4096 % 16), hexDigit (n / 256 % 16), hexDigit (n / 16 % 16),
    hexDigit (n % 16)]

/-- A character by number, those beyond the first plane as two units. -/
def escapedCode (n : Nat) : List Char :=
  if n < 0x10000 then escapedUnit n
  else escapedUnit (0xD800 + (n - 0x10000) / 1024) ++ escapedUnit (0xDC00 + (n - 0x10000) % 1024)

/-- One character of a text. -/
def escapedChar (ascii : Bool) (c : Char) : List Char :=
  if c = '"' then ['\\', '"']
  else if c = '\\' then ['\\', '\\']
  else if c = '\n' then ['\\', 'n']
  else if c = '\r' then ['\\', 'r']
  else if c = '\t' then ['\\', 't']
  else if c = '\x08' then ['\\', 'b']
  else if c = '\x0c' then ['\\', 'f']
  else if c.toNat < 0x20 then escapedUnit c.toNat
  else if ascii && 0x7F ≤ c.toNat then escapedCode c.toNat
  else [c]

/-- A text in double quotes. -/
def textChars (ascii : Bool) (s : String) : List Char :=
  '"' :: (s.toList.flatMap (escapedChar ascii) ++ ['"'])

/-- A float; the infinities and what is no number have names of their own. -/
def floatChars (x : Float) : List Char :=
  if x.isNaN then "NaN".toList
  else if x.isInf then (if x < 0 then "-Infinity" else "Infinity").toList
  else (floatText x).toList

/-- A scalar. -/
def scalarChars (ascii : Bool) : Scalar → List Char
  | .null => "null".toList
  | .bool true => "true".toList
  | .bool false => "false".toList
  | .int n => (toString n).toList
  | .float x => floatChars x
  | .text s => textChars ascii s
  | .moment t => textChars ascii t.isoText

/-- A key: a text, or the text of another scalar in quotes. -/
def keyChars (ascii : Bool) : Scalar → List Char
  | .text s => textChars ascii s
  | .moment t => textChars ascii t.isoText
  | a => '"' :: (scalarChars ascii a ++ ['"'])

/-- What stands before each entry at a level of nesting. -/
def lineBreak (layout : Layout) (level : Nat) : List Char :=
  match layout.indent with
  | some n => '\n' :: List.replicate (n * level) ' '
  | none => []

/-- What stands between two entries at a level of nesting. -/
def entryMark (layout : Layout) (level : Nat) : List Char :=
  ',' :: (if layout.spaced && layout.indent.isNone then [' '] else lineBreak layout level)

/-- What stands between a key and its value. -/
def keyMark (layout : Layout) : List Char :=
  if layout.spaced || layout.indent.isSome then [':', ' '] else [':']

mutual

/-- A value at a level of nesting. -/
def valueChars (layout : Layout) (level : Nat) : Value → List Char
  | .list [] => ['[', ']']
  | .list (v :: rest) =>
    '[' :: (lineBreak layout (level + 1) ++ valueChars layout (level + 1) v ++
      itemChars layout (level + 1) rest ++ lineBreak layout level ++ [']'])
  | .object [] => ['\x7b', '\x7d']
  | .object ((k, v) :: rest) =>
    '\x7b' :: (lineBreak layout (level + 1) ++ keyChars layout.ascii k ++ keyMark layout ++
      valueChars layout (level + 1) v ++ fieldChars layout (level + 1) rest ++
      lineBreak layout level ++ ['\x7d'])
  | .scalar a => scalarChars layout.ascii a

/-- The items of a list after its first one. -/
def itemChars (layout : Layout) (level : Nat) : List Value → List Char
  | [] => []
  | v :: rest =>
    entryMark layout level ++ valueChars layout level v ++ itemChars layout level rest

/-- The entries of an object after its first one. -/
def fieldChars (layout : Layout) (level : Nat) : List (Scalar × Value) → List Char
  | [] => []
  | (k, v) :: rest =>
    entryMark layout level ++ keyChars layout.ascii k ++ keyMark layout ++
      valueChars layout level v ++ fieldChars layout level rest

end

/-- A value as JSON text. -/
def print (layout : Layout) (v : Value) : String := String.ofList (valueChars layout 0 v)

end StructuredData.Json
