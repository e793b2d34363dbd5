import StructuredData.Text.Blank
import StructuredData.Text.Digit

/-!
# Reading whole numbers

A whole number may have blanks around it, a sign, and single underscores between its digits, which
may be decimal digits of any script.
-/

namespace StructuredData

/-- The most digits that a number may be written with. -/
def digitLimit : Nat := 4300

/-- A blank that may stand around a number: of the controls only tab and the line ends. -/
def isNumberBlank (c : Char) : Bool := isBlank c && !(0x1C ≤ c.toNat && c.toNat ≤ 0x1F)

/-- The digits of a number without its underscores; `ready` tells whether a digit came last, so
that an underscore may follow. -/
def bareDigits (ready : Bool) : List Char → Option (List Char)
  | [] => if ready then some [] else none
  | c :: rest =>
    if c = '_' then if ready then bareDigits false rest else none
    else if isDecimal c then (bareDigits true rest).map (c :: ·) else none

/-- The number that a run of digits and underscores denotes. -/
def readDigits (cs : List Char) : Option Nat :=
  match bareDigits false cs with
  | some ds => if ds.length ≤ digitLimit then readDecimal ds 0 else none
  | none => none

/-- The whole number that a text denotes. -/
def readInteger (s : String) : Option Int :=
  match Text.trimWhile isNumberBlank s.toList with
  | '-' :: cs => (readDigits cs).map fun n => -(n : Int)
  | '+' :: cs => (readDigits cs).map fun n => (n : Int)
  | cs => (readDigits cs).map fun n => (n : Int)

end StructuredData
