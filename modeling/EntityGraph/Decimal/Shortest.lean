import EntityGraph.Binary64
/-!
# The shortest decimal text of a double

The reals of which a double is the nearest form an interval around it. Of the decimals in the interval the double is
written by one with the fewest digits, and of these by the nearest. Decimals of `n` digits lie on a grid, and if the
interval holds a point of the grid at all, it holds one of the two next to the double: so the grids are tried from the
coarsest on, two points of each. All comparisons are of whole numbers.
-/

namespace EntityGraph

/-- The number `digits * 10 ^ exponent`. -/
structure Decimal where
  digits : Nat
  exponent : Int
deriving DecidableEq

namespace Decimal

/-- Moves the zeros at the end of the digits to the exponent. -/
def strip (digits : Nat) (exponent : Int) : Decimal :=
  if h : digits ≠ 0 ∧ digits % 10 = 0 then strip (digits / 10) (exponent + 1) else ⟨digits, exponent⟩
termination_by digits
decreasing_by omega

/-! ## Notation -/

def zeros (n : Nat) : List Char := List.replicate n '0'

/-- Digits, a point after the first of them unless it is the only one, and a power of ten. -/
def scientific (digits : List Char) (power : Int) : String :=
  String.ofList (digits.take 1) ++ (if digits.length ≤ 1 then "" else "." ++ String.ofList (digits.drop 1))
    ++ "e" ++ toString power

/-- Writes numbers from `10 ^ (-5)` up to `10 ^ 16` with a point and at least one digit on either side of it, all
others with a power of ten. -/
def toText (d : Decimal) : String :=
  let digits := Nat.toDigits 10 d.digits
  let point := digits.length + d.exponent
  if 16 < point ∨ point ≤ -5 then scientific digits (point - 1)
  else if point ≤ 0 then "0." ++ String.ofList (zeros (-point).toNat ++ digits)
  else if d.exponent < 0 then
    String.ofList (digits.take point.toNat) ++ "." ++ String.ofList (digits.drop point.toNat)
  else String.ofList (digits ++ zeros d.exponent.toNat) ++ ".0"

end Decimal

namespace Binary64

/-! ## The interval

Lengths are counted in halves of the smallest double. -/

/-- Halfway to the double below, which from a power of two is half as far away as the one above. -/
def lowerEnd (x : Binary64) : Nat :=
  let (m, e) := x.parts
  2 * x.units - (if m = 1 <<< 52 ∧ 0 < e then 1 <<< (e - 1) else 1 <<< e)

/-- Halfway to the double above. -/
def upperEnd (x : Binary64) : Nat := 2 * x.units + 1 <<< x.parts.2

/-- Whether the double nearest to a decimal has the magnitude of `x`. The ends of the interval belong to the even
neighbour. -/
def isReadFrom (x : Binary64) (d : Decimal) : Bool :=
  let n := (d.digits * Nat.pow 10 d.exponent.toNat) <<< 1075
  let scale := Nat.pow 10 (-d.exponent).toNat
  if x.parts.1 % 2 = 0 then x.lowerEnd * scale ≤ n && n ≤ x.upperEnd * scale
  else x.lowerEnd * scale < n && n < x.upperEnd * scale

/-! ## The search -/

/-- The number of digits before the point, or less the number of zeros after it, of a number other than zero. The
smallest double exceeds `10 ^ (-324)`. -/
def decimalScale (x : Binary64) : Int :=
  (Nat.toDigits 10 ((x.units * Nat.pow 10 324) >>> 1074)).length - 324

/-- The nearer of two neighbouring points of a grid; the even one if the distances are equal. -/
def nearer (x : Binary64) (below above : Decimal) : Decimal :=
  let sum := ((below.digits + above.digits) * Nat.pow 10 below.exponent.toNat) <<< 1074
  let twice := 2 * x.units * Nat.pow 10 (-below.exponent).toNat
  if twice < sum ∨ (twice = sum ∧ below.digits % 2 = 0) then below else above

/-- The point of the grid of step `10 ^ exponent` that stands for `x`, if there is one. -/
def onGrid? (x : Binary64) (exponent : Int) : Option Decimal :=
  let digits := x.units * Nat.pow 10 (-exponent).toNat / (Nat.pow 10 exponent.toNat <<< 1074)
  let below : Decimal := ⟨digits, exponent⟩
  let above : Decimal := ⟨digits + 1, exponent⟩
  match x.isReadFrom below, x.isReadFrom above with
  | true, true => some (x.nearer below above)
  | true, false => some below
  | false, true => some above
  | false, false => none

/-- The magnitude without any rounding. -/
def exactDecimal (x : Binary64) : Decimal := ⟨x.units * Nat.pow 5 1074, -1074⟩

/-- The shortest decimal for the magnitude. Seventeen digits tell all doubles apart. -/
def shortest (x : Binary64) : Decimal :=
  if x.magnitude = 0 then ⟨0, 0⟩
  else
    let d := ((List.range 17).findSome? fun n : Nat => x.onGrid? (x.decimalScale - (n + 1))).getD x.exactDecimal
    Decimal.strip d.digits d.exponent

def toText (x : Binary64) : String := (if x.isNegative then "-" else "") ++ x.shortest.toText

end Binary64

end EntityGraph
