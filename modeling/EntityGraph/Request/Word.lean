import EntityGraph.Text.Name
import EntityGraph.Value
/-!
# Bare words in a request

The name of an enum value stands bare in the text of a request. Where it begins with the word of another literal, that
literal is read first and the rest of the name by itself: `nullable` is null and then the name `able`, and `null5` is
null and the number five. Numbers end before no letter and no underscore.
-/

namespace EntityGraph

namespace Word

/-! ## The length of a number -/

def digitCount (cs : List Char) : Nat := (cs.takeWhile Char.isDigit).length

/-- `n + more`, unless `n` is zero. -/
def extend (n more : Nat) : Nat := if n = 0 then 0 else n + more

/-- The length of the digits of a whole number. A zero that comes first stands alone. -/
def wholeLength : List Char → Nat
  | '0' :: _ => 1
  | cs => digitCount cs

def signedLength : List Char → Nat
  | '-' :: cs => extend (wholeLength cs) 1
  | cs => wholeLength cs

def fractionLength : List Char → Nat
  | '.' :: cs => extend (digitCount cs) 1
  | _ => 0

def signLength : List Char → Nat
  | '+' :: _ => 1
  | '-' :: _ => 1
  | _ => 0

def exponentLength : List Char → Nat
  | c :: cs =>
    if c = 'e' ∨ c = 'E' then extend (digitCount (cs.drop (signLength cs))) (signLength cs + 1) else 0
  | [] => 0

/-- The length of the number that a text begins with, or zero. -/
def numberLength (cs : List Char) : Nat :=
  let whole := signedLength cs
  let pointed := extend whole (fractionLength (cs.drop whole))
  extend pointed (exponentLength (cs.drop pointed))

/-! ## Literals -/

def constants : List (List Char × Value) :=
  [("true".toList, .boolean true), ("false".toList, .boolean false), ("null".toList, .null)]

def constant? (cs : List Char) : Option (Value × List Char) :=
  constants.findSome? fun c => if c.1.isPrefixOf cs then some (c.2, cs.drop c.1.length) else none

def startsName (cs : List Char) : Bool := cs.head?.any Text.isNameStart

def number? (cs : List Char) : Option (Value × List Char) :=
  let n := numberLength cs
  if n = 0 || startsName (cs.drop n) then none
  else ((Decimal.Literal.ofChars? (cs.take n)).bind Number.ofLiteral?).map fun x => (.number x, cs.drop n)

def name? (cs : List Char) : Option (Value × List Char) :=
  if startsName cs then some (.enumeration (String.ofList (cs.takeWhile Text.isNamePart)), cs.dropWhile Text.isNamePart)
  else none

/-- The literal that a text begins with, and what follows it. -/
def front? (cs : List Char) : Option (Value × List Char) := (constant? cs).or ((number? cs).or (name? cs))

/-- Reads at most `n` literals, up to the end. -/
def readUpTo? : Nat → List Char → Option (List Value)
  | _, [] => some []
  | 0, _ :: _ => none
  | n + 1, cs => (front? cs).bind fun (v, rest) => (readUpTo? n rest).map (v :: ·)

/-- The literals that a word is read as. Each takes a character at least. -/
def read? (word : String) : Option (List Value) := readUpTo? word.toList.length word.toList

end Word

end EntityGraph
