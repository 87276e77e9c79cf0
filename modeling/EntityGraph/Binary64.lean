/-!
# Double-precision numbers by their bits

A finite double is `m * 2 ^ (e - 1074)` with `m < 2 ^ 53`; its sixty-four bits are the sign, the biased exponent and
the stored part of `m`. Counting from zero upwards, consecutive doubles have consecutive bit patterns, which is why
`e * 2 ^ 52 + m` is the pattern of a rounded quotient even where rounding carries into the next exponent.
-/

namespace EntityGraph

/-- A double-precision number. -/
structure Binary64 where
  bits : UInt64
deriving DecidableEq

namespace Binary64

/-- The nearest whole number to `num / den`; a half goes to the even neighbour. -/
def roundHalfEven (num den : Nat) : Nat :=
  let q := num / den
  let r := num % den
  if 2 * r < den then q
  else if den < 2 * r then q + 1
  else q + q % 2

/-- The exponent, counted from that of the smallest double, at which `num / den` has fifty-three binary digits. -/
def exponentOf (num den : Nat) : Nat :=
  let e := num.log2 + 1074 - (den.log2 + 53)
  if den <<< (e + 53) ≤ num <<< 1074 then e + 1 else e

def magnitudeOf (num den : Nat) : Nat :=
  if num = 0 then 0
  else
    let e := exponentOf num den
    e <<< 52 + roundHalfEven (num <<< 1074) (den <<< e)

/-- The pattern of infinity, above that of every finite magnitude. -/
def infinityBits : Nat := 0x7FF <<< 52

/-- The double nearest to `± num / den`, or nothing if that is infinite. -/
def ofRatio? (negative : Bool) (num den : Nat) : Option Binary64 :=
  let magnitude := magnitudeOf num den
  if magnitude < infinityBits then
    some ⟨UInt64.ofNat ((if negative then 1 <<< 63 else 0) + magnitude)⟩
  else none

/-- The double nearest to an integer that is within the range of doubles. -/
def ofInt (n : Int) : Binary64 := (ofRatio? (n < 0) n.natAbs 1).getD ⟨0⟩

def isNegative (x : Binary64) : Bool := 1 <<< 63 ≤ x.bits.toNat

def magnitude (x : Binary64) : Nat := x.bits.toNat % (1 <<< 63)

/-- The two zeros are the same number. -/
def same (x y : Binary64) : Bool :=
  x == y || (x.magnitude == 0 && y.magnitude == 0)

/-! ## Arithmetic -/

/-- The significand `m` and the exponent `e` of a magnitude. -/
def parts (x : Binary64) : Nat × Nat :=
  let biased := x.magnitude >>> 52
  let stored := x.magnitude % (1 <<< 52)
  if biased = 0 then (stored, 0) else (1 <<< 52 + stored, biased - 1)

/-- The magnitude as a multiple of the smallest double, of which `2 ^ 1074` make one. -/
def units (x : Binary64) : Nat := x.parts.1 <<< x.parts.2

/-- The double nearest to the product, or nothing if that is infinite. -/
def times? (x y : Binary64) : Option Binary64 :=
  ofRatio? (x.isNegative != y.isNegative) (x.units * y.units) (1 <<< 2148)

/-- The double nearest to the quotient by a number that is not zero, or nothing if that is infinite. -/
def over? (x y : Binary64) : Option Binary64 :=
  ofRatio? (x.isNegative != y.isNegative) x.units y.units

/-! ## Hexadecimal notation -/

/-- The bits in sixteen hexadecimal digits. -/
def toHex (x : Binary64) : String :=
  let digits := Nat.toDigits 16 x.bits.toNat
  String.ofList (List.replicate (16 - digits.length) '0' ++ digits)

end Binary64

end EntityGraph
