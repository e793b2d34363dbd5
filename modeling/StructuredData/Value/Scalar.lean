import StructuredData.Calendar.Moment
import StructuredData.Number.Integer
import StructuredData.Number.Shortest

/-!
# Scalars

The values that hold no others.  They also serve as the keys of objects, where a scalar counts by
what it denotes: numbers by their size, truth values being one and zero, and moments by the instant.
-/

namespace StructuredData

/-- A value that holds no others. -/
inductive Scalar where
  | null
  | bool (b : Bool)
  | int (n : Int)
  | float (x : Float)
  | text (s : String)
  | moment (t : Moment)
  deriving Inhabited

instance : Coe String Scalar := ⟨Scalar.text⟩

/-- What scalars denote. -/
inductive Meaning where
  | null
  | text (s : String)
  /-- The number `n / 2 ^ k`, in lowest terms. -/
  | number (n : Int) (k : Nat)
  | infinity (negative : Bool)
  | noNumber
  /-- An instant, or a local time if no offset is known. -/
  | moment (isLocal : Bool) (micros : Int)
  deriving Repr, DecidableEq

/-- The fraction `m / 2 ^ k` in lowest terms. -/
def lowestTerms (m : Nat) : Nat → Nat × Nat
  | 0 => (m, 0)
  | k + 1 => if m % 2 = 0 then lowestTerms (m / 2) k else (m, k + 1)

namespace Meaning

/-- What a float denotes. -/
def ofFloat (x : Float) : Meaning :=
  let negative := x.toBits.toNat / Nat.pow 2 63 = 1
  match Binary.ofFloat? x with
  | none => if x.isNaN then noNumber else infinity negative
  | some b =>
    let (m, k) := lowestTerms (b.mantissa * Nat.pow 2 b.exponent.toNat) (-b.exponent).toNat
    number (if negative then -(m : Int) else m) k

/-- The whole number that is denoted, if it is one. -/
def whole? : Meaning → Option Int
  | number n 0 => some n
  | _ => none

/-- Whether one comes before another, none if they cannot be put in order. -/
def before? : Meaning → Meaning → Option Bool
  | text s, text t => some (s < t)
  | moment z m, moment z' n => if z = z' then some (m < n) else none
  | number m j, number n k => some (m * Int.pow 2 k < n * Int.pow 2 j)
  | infinity negative, number _ _ => some negative
  | number _ _, infinity negative => some !negative
  | infinity a, infinity b => some (a && !b)
  | noNumber, number _ _ | noNumber, infinity _ | noNumber, noNumber => some false
  | number _ _, noNumber | infinity _, noNumber => some false
  | _, _ => none

end Meaning

namespace Scalar

/-- What a scalar denotes. -/
def meaning : Scalar → Meaning
  | null => .null
  | bool b => .number (if b then 1 else 0) 0
  | int n => .number n 0
  | float x => .ofFloat x
  | text s => .text s
  | moment t => .moment t.offset.isNone t.instant

/-- Scalars that denote the same are one key. -/
instance : BEq Scalar := ⟨fun a b => a.meaning == b.meaning⟩

theorem beq_iff (a b : Scalar) : (a == b) = true ↔ a.meaning = b.meaning := by
  simp [BEq.beq]

instance : EquivBEq Scalar where
  rfl := (beq_iff _ _).2 rfl
  symm h := (beq_iff _ _).2 ((beq_iff _ _).1 h).symm
  trans h h' := (beq_iff _ _).2 (((beq_iff _ _).1 h).trans ((beq_iff _ _).1 h'))

/-- A text is one key with nothing but itself. -/
theorem text_beq_iff (s : String) (a : Scalar) : (text s == a) = true ↔ a = text s := by
  rw [beq_iff]
  cases a with
  | text t => simp [meaning, eq_comm]
  | float x =>
    simp only [meaning, Meaning.ofFloat, reduceCtorEq, iff_false]
    split <;> (try split) <;> simp
  | _ => simp [meaning]

/-- Whether a scalar counts as given: not null, false, zero or empty. -/
def truthy : Scalar → Bool
  | null => false
  | bool b => b
  | int n => n != 0
  | float x => x != 0
  | text s => s != ""
  | moment _ => true

/-- Whether a scalar is a float that is no number. -/
def isNoNumber (a : Scalar) : Bool := a.meaning == .noNumber

end Scalar

end StructuredData
