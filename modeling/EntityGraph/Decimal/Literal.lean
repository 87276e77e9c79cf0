import EntityGraph.Binary64
/-!
# Numbers as they stand in a text

A literal is a sign, digits and a power of ten. There are two ways to a double: to the nearest one, and by one scaling
of the leading digits, which is what the value language does. The latter rounds the digits to a double, and then once
more the product with a power of ten or the quotient by one, and may so miss the nearest double by a little.
-/

namespace EntityGraph.Decimal

/-- A sign, whole digits, fraction digits and a power of ten. -/
structure Literal where
  negative : Bool
  whole : List Char
  fraction : List Char
  exponent : Option Int

namespace Literal

def digitValue (c : Char) : Nat := c.toNat - '0'.toNat

def digitsValue (cs : List Char) : Nat := cs.foldl (fun n c => n * 10 + digitValue c) 0

def splitSign : List Char → Bool × List Char
  | '-' :: cs => (true, cs)
  | '+' :: cs => (false, cs)
  | cs => (false, cs)

def readExponent? : List Char → Option (Option Int)
  | [] => some none
  | c :: cs =>
    if c = 'e' ∨ c = 'E' then
      let (negative, digits) := splitSign cs
      if digits.isEmpty || !digits.all Char.isDigit then none
      else some (some (if negative then -(digitsValue digits : Int) else digitsValue digits))
    else none

def ofChars? (cs : List Char) : Option Literal :=
  let (negative, rest) := splitSign cs
  let whole := rest.takeWhile Char.isDigit
  if whole.isEmpty then none
  else match rest.dropWhile Char.isDigit with
    | '.' :: rest =>
      let fraction := rest.takeWhile Char.isDigit
      if fraction.isEmpty then none
      else (readExponent? (rest.dropWhile Char.isDigit)).map (⟨negative, whole, fraction, ·⟩)
    | rest => (readExponent? rest).map (⟨negative, whole, [], ·⟩)

/-- The integer that is written without fraction, exponent and, if it is zero, without sign. -/
def integer? (l : Literal) : Option Int :=
  let n := digitsValue l.whole
  if !l.fraction.isEmpty || l.exponent.isSome || (l.negative && n == 0) then none
  else some (if l.negative then -(n : Int) else n)

/-! ## The nearest double -/

/-- The double nearest to a literal. A first nonzero digit far above or below the range of doubles decides alone. -/
def nearest? (l : Literal) : Option Binary64 :=
  let m := digitsValue (l.whole ++ l.fraction)
  let e := l.exponent.getD 0 - l.fraction.length
  if m = 0 || e + (l.whole.length + l.fraction.length) < -400 then Binary64.ofRatio? l.negative 0 1
  else if 400 < e then none
  else if 0 ≤ e then Binary64.ofRatio? l.negative (m * Nat.pow 10 e.toNat) 1
  else Binary64.ofRatio? l.negative m (Nat.pow 10 (-e).toNat)

/-! ## One scaling -/

/-- Appends digits to `n` while it stays below `2 ^ 64`, and gives the digits from the first that does not fit. -/
def append (n : Nat) : List Char → Nat × List Char
  | [] => (n, [])
  | c :: cs =>
    if n * 10 + digitValue c < 1 <<< 64 then append (n * 10 + digitValue c) cs else (n, c :: cs)

/-- The leading digits as one word and the power of ten that goes with it. Whole digits that do not fit are dropped but
for their place; what does not fit of the fraction is dropped altogether. -/
def leading (l : Literal) : Nat × Int :=
  let (n, omitted) := append 0 l.whole
  let (n, rest) := append n l.fraction
  (n, l.exponent.getD 0 + omitted.length - (l.fraction.length - rest.length : Nat))

/-- The greatest power of ten that is within the range of doubles. -/
def powerLimit : Nat := 308

def power (k : Nat) : Binary64 := Binary64.ofInt (Nat.pow 10 k)

def raise? (x : Binary64) (k : Nat) : Option Binary64 :=
  if k ≤ powerLimit then x.times? (power k) else if x.magnitude = 0 then some x else none

/-- Divides by `10 ^ k`, by at most the greatest power at a time. -/
def lower? (x : Binary64) (k : Nat) : Option Binary64 :=
  if _h : k ≤ powerLimit then x.over? (power k)
  else if x.magnitude = 0 then some x
  else (x.over? (power powerLimit)).bind (lower? · (k - powerLimit))
termination_by k
decreasing_by simp only [powerLimit] at *; omega

/-- The double that the leading digits and one scaling give, or nothing if that is infinite. -/
def scaled? (l : Literal) : Option Binary64 :=
  let (n, e) := l.leading
  (Binary64.ofRatio? l.negative n 1).bind fun x => if 0 ≤ e then raise? x e.toNat else lower? x (-e).toNat

end Literal

end EntityGraph.Decimal
