import StructuredData.Text.Printable
import StructuredData.Value.Basic

/-!
# The text of a value

A value in a running text stands for itself if it is a text; lists and objects are written in
brackets with their texts in quotes.
-/

namespace StructuredData

namespace Text

/-- The last hexadecimal digits of a number, `width` of them. -/
def hexDigits (width n : Nat) : List Char :=
  let ds := Nat.toDigits 16 n
  List.replicate (width - ds.length) '0' ++ ds

/-- One character of a quoted text. -/
def quotedChar (mark c : Char) : List Char :=
  let n := c.toNat
  if c = mark ∨ c = '\\' then ['\\', c]
  else if c = '\n' then ['\\', 'n']
  else if c = '\r' then ['\\', 'r']
  else if c = '\t' then ['\\', 't']
  else if isShown c then [c]
  else if n < 0x100 then '\\' :: 'x' :: hexDigits 2 n
  else if n < 0x10000 then '\\' :: 'u' :: hexDigits 4 n
  else '\\' :: 'U' :: hexDigits 8 n

/-- A text in quotes: single ones, unless it has a single quote and no double one. -/
def quoted (s : String) : String :=
  let cs := s.toList
  let mark := if cs.contains '\x27' && !cs.contains '"' then '"' else '\x27'
  String.ofList (mark :: cs.flatMap (quotedChar mark) ++ [mark])

end Text

namespace Scalar

/-- The text of a scalar. -/
def plainText : Scalar → String
  | null => "None"
  | bool true => "True"
  | bool false => "False"
  | int n => toString n
  | float x => floatText x
  | text s => s
  | moment t => t.plainText

/-- A scalar as it is written inside a list or an object. -/
def innerText : Scalar → String
  | text s => Text.quoted s
  | moment t => t.callText
  | a => a.plainText

/-- Whether a scalar can be written: a whole number may have too many digits. -/
def isShort : Scalar → Bool
  | int n => (Nat.toDigits 10 n.natAbs).length ≤ digitLimit
  | _ => true

end Scalar

namespace Value

mutual

/-- A value as it is written inside a list or an object. -/
def inner : Value → String
  | scalar a => a.innerText
  | list items => "[" ++ ", ".intercalate (innerItems items) ++ "]"
  | object fields => "\x7b" ++ ", ".intercalate (innerFields fields) ++ "\x7d"

/-- The items of a list as they are written. -/
def innerItems : List Value → List String
  | [] => []
  | v :: rest => inner v :: innerItems rest

/-- The entries of an object as they are written. -/
def innerFields : List (Scalar × Value) → List String
  | [] => []
  | (k, v) :: rest => (k.innerText ++ ": " ++ inner v) :: innerFields rest

end

/-- The text of a value. -/
def toText : Value → String
  | scalar a => a.plainText
  | v => inner v

@[simp] theorem toText_text (s : String) : (text s).toText = s := rfl

mutual

/-- Whether all scalars in a value can be written. -/
def isShort : Value → Bool
  | scalar a => a.isShort
  | list items => itemsShort items
  | object fields => fieldsShort fields

/-- Whether all scalars in the items of a list can be written. -/
def itemsShort : List Value → Bool
  | [] => true
  | v :: rest => isShort v && itemsShort rest

/-- Whether all scalars in the entries of an object can be written. -/
def fieldsShort : List (Scalar × Value) → Bool
  | [] => true
  | (k, v) :: rest => k.isShort && isShort v && fieldsShort rest

end

/-- The text of a value, if all that is in it can be written. -/
def written (v : Value) : Except Fault String := if v.isShort then .ok v.toText else .error .tooLong

end Value

end StructuredData
