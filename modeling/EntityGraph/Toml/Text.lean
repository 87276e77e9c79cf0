/-!
# Strings and keys of a TOML document

Each reader gives what it read and the rest of the text, or nothing if the text does not begin as it should.
-/

namespace EntityGraph.Toml

def isBlank (c : Char) : Bool := c == ' ' || c == '\t'

/-- Characters that may stand in comments and strings. -/
def isPlain (c : Char) : Bool := c == '\t' || (0x20 ≤ c.toNat && c.toNat != 0x7F)

def skipBlanks (cs : List Char) : List Char := cs.dropWhile isBlank

/-- The rest of the text after a line break, if it begins with one. -/
def lineBreak? : List Char → Option (List Char)
  | '\n' :: cs => some cs
  | '\r' :: '\n' :: cs => some cs
  | _ => none

/-! ## Escapes -/

def hexDigit? (c : Char) : Option Nat :=
  if c.isDigit then some (c.toNat - '0'.toNat)
  else if 'a' ≤ c ∧ c ≤ 'f' then some (c.toNat - 'a'.toNat + 10)
  else if 'A' ≤ c ∧ c ≤ 'F' then some (c.toNat - 'A'.toNat + 10)
  else none

def hexValue? (cs : List Char) : Option Nat :=
  cs.foldlM (fun n c => (hexDigit? c).map (n * 16 + ·)) 0

/-- The character of a code point given in hexadecimal, unless it is no code point of a character. -/
def hexChar? (cs : List Char) : Option Char :=
  (hexValue? cs).bind fun n => if n.isValidChar then some (Char.ofNat n) else none

def escaped? : Char → Option Char
  | 'b' => some (Char.ofNat 8)
  | 't' => some '\t'
  | 'n' => some '\n'
  | 'f' => some (Char.ofNat 12)
  | 'r' => some '\r'
  | 'e' => some (Char.ofNat 27)
  | '"' => some '"'
  | '\\' => some '\\'
  | _ => none

/-! ## Strings on one line -/

/-- Reads the rest of a basic string; `done` holds what was read, the last character first. -/
def readBasic (done : List Char) : List Char → Option (String × List Char)
  | [] => none
  | '"' :: cs => some (String.ofList done.reverse, cs)
  | '\\' :: 'x' :: a :: b :: cs => (hexChar? [a, b]).bind fun c => readBasic (c :: done) cs
  | '\\' :: 'u' :: a :: b :: c :: d :: cs => (hexChar? [a, b, c, d]).bind fun c => readBasic (c :: done) cs
  | '\\' :: 'U' :: a :: b :: c :: d :: e :: f :: g :: h :: cs =>
    (hexChar? [a, b, c, d, e, f, g, h]).bind fun c => readBasic (c :: done) cs
  | '\\' :: c :: cs => (escaped? c).bind fun c => readBasic (c :: done) cs
  | c :: cs => if isPlain c && c != '\\' then readBasic (c :: done) cs else none

def readLiteral (done : List Char) : List Char → Option (String × List Char)
  | [] => none
  | c :: cs =>
    if c.toNat = 0x27 then some (String.ofList done.reverse, cs)
    else if isPlain c then readLiteral (c :: done) cs
    else none

/-! ## Strings on several lines

Line breaks are kept as they are written. -/

/-- Whether white space is being left out after a backslash at the end of a line. -/
inductive Trim
  | no
  /-- The line has not ended yet. -/
  | sameLine
  | nextLines
deriving DecidableEq

/-- Reads the rest of a basic string on several lines. Up to two quotes may stand before the closing ones. -/
def readLongBasic (done : List Char) : Trim → List Char → Option (String × List Char)
  | .sameLine, ' ' :: cs => readLongBasic done .sameLine cs
  | .sameLine, '\t' :: cs => readLongBasic done .sameLine cs
  | .sameLine, '\n' :: cs => readLongBasic done .nextLines cs
  | .sameLine, '\r' :: '\n' :: cs => readLongBasic done .nextLines cs
  | .sameLine, _ => none
  | .nextLines, ' ' :: cs => readLongBasic done .nextLines cs
  | .nextLines, '\t' :: cs => readLongBasic done .nextLines cs
  | .nextLines, '\n' :: cs => readLongBasic done .nextLines cs
  | .nextLines, '\r' :: '\n' :: cs => readLongBasic done .nextLines cs
  | _, [] => none
  | _, '"' :: '"' :: '"' :: '"' :: '"' :: cs => some (String.ofList ('"' :: '"' :: done).reverse, cs)
  | _, '"' :: '"' :: '"' :: '"' :: cs => some (String.ofList ('"' :: done).reverse, cs)
  | _, '"' :: '"' :: '"' :: cs => some (String.ofList done.reverse, cs)
  | _, '\\' :: 'x' :: a :: b :: cs => (hexChar? [a, b]).bind fun c => readLongBasic (c :: done) .no cs
  | _, '\\' :: 'u' :: a :: b :: c :: d :: cs =>
    (hexChar? [a, b, c, d]).bind fun c => readLongBasic (c :: done) .no cs
  | _, '\\' :: 'U' :: a :: b :: c :: d :: e :: f :: g :: h :: cs =>
    (hexChar? [a, b, c, d, e, f, g, h]).bind fun c => readLongBasic (c :: done) .no cs
  | _, '\\' :: '\r' :: '\n' :: cs => readLongBasic done .nextLines cs
  | _, '\\' :: c :: cs =>
    if c = '\n' then readLongBasic done .nextLines cs
    else if isBlank c then readLongBasic done .sameLine cs
    else (escaped? c).bind fun c => readLongBasic (c :: done) .no cs
  | _, '\r' :: '\n' :: cs => readLongBasic ('\n' :: '\r' :: done) .no cs
  | _, c :: cs => if (isPlain c && c != '\\') || c = '\n' then readLongBasic (c :: done) .no cs else none

def quoteMark : Char := Char.ofNat 0x27

/-- Whether the text begins with this many single quotes. -/
def startsQuoted (n : Nat) (cs : List Char) : Bool := cs.take n == List.replicate n quoteMark

def readLongLiteral (done : List Char) : List Char → Option (String × List Char)
  | [] => none
  | '\r' :: '\n' :: cs => readLongLiteral ('\n' :: '\r' :: done) cs
  | c :: cs =>
    if startsQuoted 5 (c :: cs) then some (String.ofList (quoteMark :: quoteMark :: done).reverse, cs.drop 4)
    else if startsQuoted 4 (c :: cs) then some (String.ofList (quoteMark :: done).reverse, cs.drop 3)
    else if startsQuoted 3 (c :: cs) then some (String.ofList done.reverse, cs.drop 2)
    else if isPlain c || c = '\n' then readLongLiteral (c :: done) cs
    else none

/-- Leaves out a line break right after the opening quotes. -/
def dropFirstBreak (cs : List Char) : List Char := (lineBreak? cs).getD cs

/-- Reads a string of any of the four forms, if the text begins with one. -/
def readString? (cs : List Char) : Option (Option (String × List Char)) :=
  match cs with
  | '"' :: '"' :: '"' :: cs => some (readLongBasic [] .no (dropFirstBreak cs))
  | '"' :: cs => some (readBasic [] cs)
  | cs =>
    if startsQuoted 3 cs then some (readLongLiteral [] (dropFirstBreak (cs.drop 3)))
    else if startsQuoted 1 cs then some (readLiteral [] (cs.drop 1))
    else none

/-! ## Keys -/

def isBareKey (c : Char) : Bool := c.isAlphanum || c == '_' || c == '-'

/-- One part of a key: bare, or a string on one line. -/
def readKeyPart (cs : List Char) : Option (String × List Char) :=
  match cs with
  | '"' :: cs => readBasic [] cs
  | cs =>
    if startsQuoted 1 cs then readLiteral [] (cs.drop 1)
    else
      let bare := cs.takeWhile isBareKey
      if bare.isEmpty then none else some (String.ofList bare, cs.dropWhile isBareKey)

/-- Reads a key of at most `parts` parts, with the blanks after it. -/
def readKeyParts : Nat → List Char → Option (List String × List Char)
  | 0, _ => none
  | parts + 1, cs => do
    let (part, cs) ← readKeyPart cs
    match skipBlanks cs with
    | '.' :: cs =>
      let (others, cs) ← readKeyParts parts (skipBlanks cs)
      some (part :: others, cs)
    | cs => some ([part], cs)

/-- How many parts a key may have. -/
def longestKey : Nat := 80

def readKey (cs : List Char) : Option (List String × List Char) := readKeyParts longestKey cs

end EntityGraph.Toml
