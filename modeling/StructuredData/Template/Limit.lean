import StructuredData.Value.Basic

/-!
# Limits

A limit on expansion is a number, whole or not.  Anything else can be given for it as well, and
makes a fault when the limit is looked at.
-/

namespace StructuredData

/-- How far something may go. -/
inductive Limit where
  | whole (n : Int)
  | real (x : Float)
  /-- Something that is no number. -/
  | unfit
  deriving Inhabited

namespace Limit

/-- The limit that a value gives; truth values count as one and zero. -/
def ofValue : Value → Limit
  | .bool b => whole (if b then 1 else 0)
  | .int n => whole n
  | .float x => real x
  | _ => unfit

/-- A limit as a value. -/
def toValue : Limit → Value
  | whole n => .int n
  | real x => .float x
  | unfit => .null

/-- How many there may be before the limit is reached, none if it never is.  A limit that is no
number is looked at at once. -/
def allowance : Limit → Option Nat
  | whole n => some n.toNat
  | real x =>
    match Meaning.ofFloat x with
    | .number n k => some (-(-n / Int.pow 2 k)).toNat
    | .infinity true => some 0
    | _ => none
  | unfit => some 0

/-- Whether a number is within a limit. -/
def admits (n : Nat) : Limit → Except Fault Bool
  | whole m => .ok ((n : Int) ≤ m)
  | real x => .ok ((Meaning.number n 0).before? (.ofFloat x) == some true ||
      Meaning.number n 0 == .ofFloat x)
  | unfit => .error .badLimit

/-- A limit as it is told. -/
def told : Limit → Except Fault Int
  | whole n => .ok n
  | real x => Value.truncate x
  | unfit => .error .badLimit

end Limit

/-- How far expansion may go. -/
structure Limits where
  /-- The longest chain of tokens that are expanded inside each other. -/
  depth : Limit := .whole 10
  /-- The most texts that one pass expands. -/
  steps : Limit := .whole 10000
  deriving Inhabited

namespace Limits

/-- The limits given in a mapping, the usual ones where none are given. -/
def ofEntries (e : Fields) : Limits :=
  let usual : Limits := {}
  { depth := ((e.get? "max_depth").map Limit.ofValue).getD usual.depth,
    steps := ((e.get? "max_steps").map Limit.ofValue).getD usual.steps }

end Limits

end StructuredData
