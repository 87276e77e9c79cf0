import EntityGraph.Number
import EntityGraph.Toml.Moment
import EntityGraph.Toml.Table
/-!
# Numbers and booleans of a TOML document

Whole numbers are decimal with a sign, or hexadecimal, octal or binary without one. Underscores may stand between
digits. Of a float it is only told that it is one; it must be finite or say that it is not.
-/

namespace EntityGraph.Toml

/-- Whether digits are separated by single underscores only. -/
def separated (isDigit : Char → Bool) : List Char → Bool
  | [] => false
  | [c] => isDigit c
  | c :: '_' :: cs => isDigit c && separated isDigit cs
  | c :: cs => isDigit c && separated isDigit cs

/-- The digits of a part of a number, without the underscores between them. -/
def digits? (isDigit : Char → Bool) (cs : List Char) : Option (List Char) :=
  if separated isDigit cs then some (cs.filter (· != '_')) else none

/-- The digits of a decimal number, which begins with zero only if it is zero. -/
def decimalDigits? (cs : List Char) : Option (List Char) :=
  match digits? Char.isDigit cs with
  | some ('0' :: _ :: _) => none
  | other => other

def valueIn (base : Nat) (digits : List Char) : Nat :=
  digits.foldl (fun n c => n * base + (hexDigit? c).getD 0) 0

def isDigitBelow (base : Nat) (c : Char) : Bool :=
  match hexDigit? c with
  | some n => n < base
  | none => false

/-- Whole numbers beyond a hundred and twenty-eight bits are not read. -/
def wholeNumber? (n : Int) : Option Node :=
  if -(1 <<< 127 : Nat) ≤ n ∧ n < (1 <<< 128 : Nat) then some (.integer n) else none

def readInteger? (cs : List Char) : Option Node :=
  match cs with
  | '0' :: 'x' :: cs => (digits? (isDigitBelow 16) cs).bind fun ds => wholeNumber? (valueIn 16 ds)
  | '0' :: 'o' :: cs => (digits? (isDigitBelow 8) cs).bind fun ds => wholeNumber? (valueIn 8 ds)
  | '0' :: 'b' :: cs => (digits? (isDigitBelow 2) cs).bind fun ds => wholeNumber? (valueIn 2 ds)
  | cs =>
    let (negative, cs) := Decimal.Literal.splitSign cs
    (decimalDigits? cs).bind fun ds =>
      wholeNumber? (if negative then -(valueIn 10 ds : Int) else valueIn 10 ds)

def isExponentMark (c : Char) : Bool := c == 'e' || c == 'E'

/-- The exponent's sign and digits, without underscores, after the mark; nothing if there is no exponent. -/
def readExponentPart? : List Char → Option (List Char)
  | [] => some []
  | mark :: cs =>
    let sign := cs.takeWhile fun c => c == '+' || c == '-'
    if 1 < sign.length then none
    else (digits? Char.isDigit (cs.drop sign.length)).map fun ds => mark :: sign ++ ds

def isSpecialFloat (cs : List Char) : Bool := cs == ['i', 'n', 'f'] || cs == ['n', 'a', 'n']

/-- A float's digits as one literal without underscores. -/
def floatLiteral? (cs : List Char) : Option (List Char) := do
  let exponent ← readExponentPart? (cs.dropWhile (!isExponentMark ·))
  let mantissa := cs.takeWhile (!isExponentMark ·)
  let whole ← decimalDigits? (mantissa.takeWhile (· != '.'))
  match mantissa.dropWhile (· != '.') with
  | [] => if exponent.isEmpty then none else some (whole ++ exponent)
  | _ :: fraction =>
    let fraction ← digits? Char.isDigit fraction
    some (whole ++ '.' :: fraction ++ exponent)

def readFloat? (cs : List Char) : Option Node :=
  let (_, cs) := Decimal.Literal.splitSign cs
  if isSpecialFloat cs then some .float
  else
    (floatLiteral? cs).bind fun literal =>
      (Decimal.Literal.ofChars? literal).bind fun l => l.nearest?.map fun _ => .float

/-- Reads a word that is no string: a boolean, a number or a moment. -/
def readWord? (cs : List Char) : Option Node :=
  match String.ofList cs with
  | "true" => some (.boolean true)
  | "false" => some (.boolean false)
  | _ =>
    match readInteger? cs with
    | some node => some node
    | none => if isMoment cs then some .moment else readFloat? cs

end EntityGraph.Toml
