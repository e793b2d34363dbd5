import StructuredData.Value.Scalar

/-!
# The tokens of JSON

A JSON text is a row of brackets, marks, texts and bare words, with blanks between them.
-/

namespace StructuredData.Json

/-- The parts of a JSON text. -/
inductive Token where
  | openList
  | closeList
  | openObject
  | closeObject
  | comma
  | colon
  | text (s : String)
  | scalar (a : Scalar)

/-! ## Bare words -/

/-- The value of a hexadecimal digit. -/
def hexValue? (c : Char) : Option Nat :=
  if '0' ≤ c ∧ c ≤ '9' then some (c.toNat - 48)
  else if 'a' ≤ c ∧ c ≤ 'f' then some (c.toNat - 87)
  else if 'A' ≤ c ∧ c ≤ 'F' then some (c.toNat - 55)
  else none

/-- The number that four hexadecimal digits denote. -/
def unit? (a b c d : Char) : Option Nat := do
  return ((← hexValue? a) * 16 + (← hexValue? b)) * 256 + ((← hexValue? c) * 16 + (← hexValue? d))

/-- A run of ASCII digits, not empty, as a number. -/
def digits? (cs : List Char) : Option Nat :=
  if cs.isEmpty || !cs.all Char.isDigit then none
  else some (cs.foldl (fun acc c => 10 * acc + (c.toNat - 48)) 0)

/-- Whether digits can start a number: there are some, and a zero stands by itself. -/
def isLead : List Char → Bool
  | [] => false
  | c :: rest => c != '0' || rest.isEmpty

/-- A number without its sign: whole, or with fraction or exponent. -/
def unsigned? (negative : Bool) (cs : List Char) : Option Scalar :=
  let isExp := fun c => c = 'e' || c = 'E'
  let body := cs.takeWhile fun c => !isExp c
  let whole := body.takeWhile (· ≠ '.')
  let fraction : Option (List Char) := match body.dropWhile (· ≠ '.') with
    | [] => some []
    | _ :: ds => if ds.isEmpty then none else some ds
  let power : Option Int := match cs.dropWhile fun c => !isExp c with
    | [] => some 0
    | _ :: '-' :: ds => (digits? ds).map fun n => -(n : Int)
    | _ :: '+' :: ds => (digits? ds).map fun n => (n : Int)
    | _ :: ds => (digits? ds).map fun n => (n : Int)
  if !isLead whole then none
  else if cs.all Char.isDigit then
    if cs.length ≤ digitLimit then
      (digits? cs).map fun n => .int (if negative then -(n : Int) else n)
    else none
  else do
    let fraction ← fraction
    let mantissa ← digits? (whole ++ fraction)
    let exponent := (← power) - fraction.length
    let x := Float.ofScientific mantissa (exponent < 0) exponent.natAbs
    return .float (if negative then -x else x)

/-- The scalars that have names. -/
def named : List (String × Scalar) :=
  [("null", .null), ("true", .bool true), ("false", .bool false), ("NaN", .float (0 / 0)),
    ("Infinity", .float (1 / 0)), ("-Infinity", .float (-1 / 0))]

/-- A bare word: a name or a number. -/
def word? (cs : List Char) : Option Scalar :=
  match named.lookup (String.ofList cs), cs with
  | some a, _ => some a
  | none, '-' :: cs => unsigned? true cs
  | none, cs => unsigned? false cs

/-- Whether a character can be part of a bare word. -/
def isWordChar (c : Char) : Bool := c.isAlphanum || c = '+' || c = '-' || c = '.'

/-! ## Cutting a text into tokens -/

/-- Where the reader of a text stands: between tokens or in a bare word, or in a quoted text; what
it has read of the token comes last character first. -/
inductive Mode where
  | bare (read : List Char)
  | quoted (read : List Char)

/-- The character that an escaped one stands for. -/
def unescaped? (c : Char) : Option Char :=
  match c with
  | '"' => some '"'
  | '\\' => some '\\'
  | '/' => some '/'
  | 'b' => some '\x08'
  | 'f' => some '\x0c'
  | 'n' => some '\n'
  | 'r' => some '\r'
  | 't' => some '\t'
  | _ => none

/-- The token that a single character is. -/
def mark? (c : Char) : Option Token :=
  match c with
  | '[' => some .openList
  | ']' => some .closeList
  | '\x7b' => some .openObject
  | '\x7d' => some .closeObject
  | ',' => some .comma
  | ':' => some .colon
  | _ => none

/-- Whether a character is one of the blanks between tokens. -/
def isGap (c : Char) : Bool := c = ' ' || c = '\n' || c = '\r' || c = '\t'

/-- The character of a unit or of a pair of units. -/
def pairChar (high low : Nat) : Char :=
  Char.ofNat (0x10000 + (high - 0xD800) * 1024 + (low - 0xDC00))

/-- Cuts a text into tokens, with a reading of bare words. -/
def tokens? (word : List Char → Option Scalar) : Mode → List Char → Option (List Token)
  | .bare _, [] => some []
  | .quoted _, [] => none
  | .bare read, c :: rest =>
    if isWordChar c then
      if (rest.head?.map isWordChar).getD false then tokens? word (.bare (c :: read)) rest
      else do
        let a ← word (c :: read).reverse
        return .scalar a :: (← tokens? word (.bare []) rest)
    else if c = '"' then tokens? word (.quoted []) rest
    else if isGap c then tokens? word (.bare []) rest
    else do
      let t ← mark? c
      return t :: (← tokens? word (.bare []) rest)
  | .quoted read, '"' :: rest => do
    let more ← tokens? word (.bare []) rest
    return .text (String.ofList read.reverse) :: more
  | .quoted read, '\\' :: 'u' :: a :: b :: c :: d :: rest => do
    let high ← unit? a b c d
    if 0xD800 ≤ high ∧ high < 0xE000 then
      match rest with
      | '\\' :: 'u' :: e :: f :: g :: h :: rest => do
        let low ← unit? e f g h
        if high < 0xDC00 ∧ 0xDC00 ≤ low ∧ low < 0xE000 then
          tokens? word (.quoted (pairChar high low :: read)) rest
        else tokens? word (.quoted ('\uFFFD' :: '\uFFFD' :: read)) rest
      | rest => tokens? word (.quoted ('\uFFFD' :: read)) rest
    else tokens? word (.quoted (Char.ofNat high :: read)) rest
  | .quoted read, '\\' :: c :: rest => do
    let c ← unescaped? c
    tokens? word (.quoted (c :: read)) rest
  | .quoted read, c :: rest =>
    -- a control character has to be written by number
    if c.toNat < 0x20 then none else tokens? word (.quoted (c :: read)) rest

end StructuredData.Json
