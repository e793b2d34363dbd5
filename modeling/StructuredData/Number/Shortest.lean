/-!
# Shortest decimals

The text of a float is the shortest decimal that reads back as it, and of those the nearest.  A
finite float is `mantissa · 2 ^ exponent`; the decimals that read back as it fill an interval around
it, whose ends belong to it when the mantissa is even.
-/

namespace StructuredData

/-- The size of a finite float, as `mantissa · 2 ^ exponent`. -/
structure Binary where
  mantissa : Nat
  exponent : Int
  deriving Repr, DecidableEq

namespace Binary

/-- The size of a float, none for the infinities and for what is no number. -/
def ofFloat? (x : Float) : Option Binary :=
  let bits := x.toBits.toNat
  let fraction := bits % Nat.pow 2 52
  let biased : Nat := bits / Nat.pow 2 52 % Nat.pow 2 11
  if biased = 2047 then none
  else if biased = 0 then some ⟨fraction, -1074⟩
  else some ⟨fraction + Nat.pow 2 52, (biased : Int) - 1075⟩

/-- The whole part. -/
def floor (b : Binary) : Nat :=
  if 0 ≤ b.exponent then b.mantissa * Nat.pow 2 b.exponent.toNat
  else b.mantissa / Nat.pow 2 (-b.exponent).toNat

/-- Compares `d · 10 ^ k` with `n · 2 ^ q` in whole numbers. -/
def compareScaled (d : Nat) (k : Int) (n : Nat) (q : Int) : Ordering :=
  compare (d * Nat.pow 10 k.toNat * Nat.pow 2 (-q).toNat)
    (n * Nat.pow 2 q.toNat * Nat.pow 10 (-k).toNat)

/-- The decimal exponent of the first digit of a positive number. -/
def leadExponent (b : Binary) : Int :=
  let scaled := b.mantissa * Nat.pow 10 400 * Nat.pow 2 b.exponent.toNat /
    Nat.pow 2 (-b.exponent).toNat
  ((Nat.toDigits 10 scaled).length : Int) - 401

/-- Whether the decimal `d · 10 ^ k` reads back as the number. -/
def readsBack (b : Binary) (d : Nat) (k : Int) : Bool :=
  let q := b.exponent - 2
  let below := if b.mantissa = Nat.pow 2 52 ∧ b.exponent ≠ -1074 then 1 else 2
  let low := compareScaled d k (4 * b.mantissa - below) q
  let high := compareScaled d k (4 * b.mantissa + 2) q
  if b.mantissa % 2 = 0 then low != .lt && high != .gt else low == .gt && high == .lt

/-- The multiple of `10 ^ k` at or below the number. -/
def below (b : Binary) (k : Int) : Nat :=
  (b.mantissa * Nat.pow 2 b.exponent.toNat * Nat.pow 10 (-k).toNat) /
    (Nat.pow 2 (-b.exponent).toNat * Nat.pow 10 k.toNat)

/-- The decimal on the grid `10 ^ k` that reads back as the number: the nearer of the two
neighbours that do, and the even one at equal distance. -/
def onGrid (b : Binary) (k : Int) : Option Nat :=
  let d := b.below k
  match b.readsBack d k, b.readsBack (d + 1) k with
  | true, false => some d
  | false, true => some (d + 1)
  | false, false => none
  | true, true =>
    match compareScaled (2 * d + 1) k (2 * b.mantissa) b.exponent with
    | .gt => some d
    | .lt => some (d + 1)
    | .eq => some (if d % 2 = 0 then d else d + 1)

/-- The shortest decimal `d · 10 ^ k` that reads back as a positive number. -/
def shortest (b : Binary) : Nat × Int :=
  let lead := b.leadExponent
  let grids := (List.range 17).map fun (n : Nat) => lead - n
  match grids.findSome? fun k => (b.onGrid k).map fun d => (d, k) with
  | some r => r
  | none => (b.below (lead - 16), lead - 16)

end Binary

/-! ## Layout -/

/-- Pads a list of digits on the right with zeros. -/
def padZeros (n : Nat) (ds : List Char) : List Char := ds ++ List.replicate (n - ds.length) '0'

/-- Writes a decimal: with a point from a ten-thousandth up to below ten to the sixteenth, else with
an exponent that has a sign and at least two digits. -/
def decimalText (d : Nat) (k : Int) : String :=
  let all := Nat.toDigits 10 d
  let digits := (all.reverse.dropWhile (· = '0')).reverse
  let lead := k + all.length - 1
  if -4 ≤ lead ∧ lead < 0 then
    "0." ++ String.ofList (List.replicate ((-lead).toNat - 1) '0' ++ digits)
  else if 0 ≤ lead ∧ lead < 16 then
    let whole := lead.toNat + 1
    let rest := digits.drop whole
    String.ofList (padZeros whole (digits.take whole)) ++ "." ++
      (if rest.isEmpty then "0" else String.ofList rest)
  else
    let size := toString lead.natAbs
    let mark := (if lead < 0 then "e-" else "e+") ++ (if size.length < 2 then "0" else "") ++ size
    match digits with
    | [] => "0" ++ mark
    | [c] => String.ofList [c] ++ mark
    | c :: rest => String.ofList (c :: '.' :: rest) ++ mark

/-- The text of a float. -/
def floatText (x : Float) : String :=
  let mark := if x.toBits.toNat / Nat.pow 2 63 = 1 then "-" else ""
  match Binary.ofFloat? x with
  | none => if x.isNaN then "nan" else mark ++ "inf"
  | some b =>
    if b.mantissa = 0 then mark ++ "0.0"
    else let (d, k) := b.shortest; mark ++ decimalText d k

end StructuredData
