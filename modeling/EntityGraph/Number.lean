import EntityGraph.Decimal.Literal
import EntityGraph.Decimal.Shortest
/-!
# Numbers of the value language

Whole numbers of sixty-four bits, signed or unsigned, are exact. A number with a fraction or an exponent, a whole
number out of range and a negative zero are doubles. The two kinds never compare equal.

A double is written by its shortest text and read by one scaling of its leading digits, so that reading what was
written may give a neighbour of the double.
-/

namespace EntityGraph

inductive Number
  | int (n : Int)
  | double (x : Binary64)
deriving DecidableEq

namespace Number

def same : Number → Number → Bool
  | .int m, .int n => m == n
  | .double x, .double y => x.same y
  | _, _ => false

def toBinary64 : Number → Binary64
  | .int n => Binary64.ofInt n
  | .double x => x

/-- Whether a whole number has a signed sixty-four bit form. -/
def fitsInt64 (n : Int) : Bool := -(1 <<< 63 : Nat) ≤ n && n < (1 <<< 63 : Nat)

def isExact (n : Int) : Bool := -(1 <<< 63 : Nat) ≤ n && n < (1 <<< 64 : Nat)

/-! ## Decimal notation -/

def toText : Number → String
  | .int n => toString n
  | .double x => x.toText

def ofLiteral? (l : Decimal.Literal) : Option Number :=
  match l.integer? with
  | some n => if isExact n then some (.int n) else l.scaled?.map .double
  | none => l.scaled?.map .double

def ofText? (s : String) : Option Number := (Decimal.Literal.ofChars? s.toList).bind ofLiteral?

/-- The number that is read where this one is written. -/
def reread? (n : Number) : Option Number := ofText? n.toText

end Number

end EntityGraph
