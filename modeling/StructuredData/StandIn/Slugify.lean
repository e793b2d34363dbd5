import StructuredData.StandIn.EntityTable
import StructuredData.StandIn.LatinTable
import StructuredData.Text.Slug

/-!
# A stand-in for the slugifier

The slugifier that the program runs with is a component of its own and no part of this library.
This one stands in for it: it takes the same steps, with recorded spellings for some characters
beyond ASCII in the place of the component's table, and leaves out a character that has none.  What
is proved about identifiers holds for every slugifier and uses nothing from here.
-/

namespace StructuredData.StandIn

open Slug

/-! ## Spelling -/

/-- Takes a compatibility character apart.  A tilde stands for what stays beyond ASCII. -/
def decompose (c : Char) : List Char :=
  let n := c.toNat
  if n < 0x80 then [c]
  else match LatinTable.base.find? fun (first, last, _) => first ≤ n && n ≤ last with
    | some (first, _, target) => [Char.ofNat (target + (n - first))]
    | none =>
      match LatinTable.marked.find? fun (_, codes) => codes.contains n with
      | some (letter, _) => [letter, '~']
      | none =>
        match LatinTable.compound.lookup n with
        | some s => s.toList
        | none => [c]

/-- Spells one character with ASCII characters, with none if it has no spelling. -/
def spell (c : Char) : List Char :=
  if c.toNat < 0x80 then [c]
  else match LatinTable.spelling.lookup c.toNat with
    | some s => s.toList
    | none => (decompose c).filter fun d => d.toNat < 0x80 && d != '~'

/-! ## Character references

A reference runs from an ampersand to the next semicolon and holds no second ampersand, so a text
cut at its ampersands shows them all at the heads of its pieces.
-/

/-- One past the last code point. -/
def codeLimit : Nat := 0x110000

/-- A reference by name at the head of a piece: the code point and what follows. -/
def readNamed (piece : List Char) : Option (Nat × List Char) :=
  match piece.dropWhile Char.isAlphanum with
  | ';' :: rest =>
    (entityTable.lookup (String.ofList (piece.takeWhile Char.isAlphanum))).map fun n => (n, rest)
  | _ => none

/-- A reference by decimal number at the head of a piece.  A number of more than 4300 digits counts
as out of range. -/
def readNumbered (piece : List Char) : Option (Nat × List Char) :=
  match piece with
  | '#' :: cs =>
    match cs.dropWhile isDecimal with
    | ';' :: rest =>
      let digits := cs.takeWhile isDecimal
      if digits.isEmpty then none
      else if digits.length > 4300 then some (codeLimit, rest)
      else (readDecimal digits 0).map fun n => (n, rest)
    | _ => none
  | _ => none

/-- The value of a hexadecimal digit. -/
def hexValue? (c : Char) : Option Nat :=
  if 'a' ≤ c ∧ c ≤ 'f' then some (c.toNat - 'a'.toNat + 10)
  else if 'A' ≤ c ∧ c ≤ 'F' then some (c.toNat - 'A'.toNat + 10)
  else decimalValue? c

/-- The number that a list of hexadecimal digits denotes, `acc` being the digits before them. -/
def readHex (cs : List Char) (acc : Nat) : Option Nat :=
  match cs with
  | [] => some acc
  | c :: rest => (hexValue? c).bind fun d => readHex rest (16 * acc + d)

/-- A reference by hexadecimal number, marked with a small x, at the head of a piece. -/
def readHexNumbered (piece : List Char) : Option (Nat × List Char) :=
  match piece with
  | '#' :: 'x' :: cs =>
    let isHex := fun c => (hexValue? c).isSome
    match cs.dropWhile isHex with
    | ';' :: rest =>
      let digits := cs.takeWhile isHex
      if digits.isEmpty then none else (readHex digits 0).map fun n => (n, rest)
    | _ => none
  | _ => none

/-- Replaces the references of one kind.  If one of them is no code point, all stay. -/
def resolveReferences (read : List Char → Option (Nat × List Char)) (cs : List Char) : List Char :=
  match Text.cutFrom '&' [] cs with
  | [] => []
  | first :: pieces =>
    if (pieces.filterMap read).all fun r => r.1 < codeLimit then
      first ++ pieces.flatMap fun piece =>
        match read piece with
        | some (n, rest) => (if n.isValidChar then Char.ofNat n else '~') :: rest
        | none => '&' :: piece
    else cs

/-! ## The pipeline -/

/-- Writes each run of a character as one other character. -/
def squeeze (c d : Char) : List Char → List Char
  | [] => []
  | [x] => if x = c then [d] else [x]
  | x :: y :: rest =>
    if x = c then if y = c then squeeze c d (y :: rest) else d :: squeeze c d (y :: rest)
    else x :: squeeze c d (y :: rest)

/-- Deletes a comma between two digits; `before` tells whether a digit stands before the text. -/
def joinThousands (before : Bool) : List Char → List Char
  | [] => []
  | c :: rest =>
    let between := c = ',' && before && (match rest with | d :: _ => isDecimal d | [] => false)
    if between then joinThousands (isDecimal c) rest else c :: joinThousands (isDecimal c) rest

/-- A label in ASCII, lower case, with its references resolved. -/
def plain (cs : List Char) : List Char :=
  let spelled := (squeeze '\x27' '-' cs).flatMap spell
  let resolved :=
    resolveReferences readHexNumbered (resolveReferences readNumbered
      (resolveReferences readNamed spelled))
  let lowered := (resolved.flatMap decompose).map Char.toLower
  joinThousands false (lowered.filter (· != '\x27'))

/-- The runs of letters and digits in a label, with dashes between them. -/
def slugify (s : String) : String := String.ofList (['-'].intercalate (runs (plain s.toList)))

instance slugifier : Slugifier := ⟨slugify⟩

end StructuredData.StandIn
