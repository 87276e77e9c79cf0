import EntityGraph.Toml.Number
/-!
# Reading a TOML document

A document is read line by line: a header opens a section, a key with its value is entered into the open section, and
anything else but blanks and a comment is refused, as is a second entry of one key.

Readers that nest or repeat are given a bound, which the length of the document always suffices for. Apart from it,
arrays and inline tables may only stand so deep in one another, and a line break may stand wherever space may inside
them.
-/

namespace EntityGraph.Toml

/-! ## Values -/

def isWord (c : Char) : Bool := c.isAlphanum || c == '_' || c == '+' || c == '-' || c == '.' || c == ':'

/-- The word that a text begins with, and the rest. A moment whose date and time are set apart by a space is one
word. -/
def takeWord (cs : List Char) : List Char × List Char :=
  let word := cs.takeWhile isWord
  let rest := cs.dropWhile isWord
  if dateBeforeTime word rest then (word ++ ' ' :: (rest.drop 1).takeWhile isWord, (rest.drop 1).dropWhile isWord)
  else (word, rest)

/-- Skips blanks, line breaks and comments. -/
def skipSpace : Nat → List Char → List Char
  | 0, cs => cs
  | bound + 1, cs =>
    match skipBlanks cs with
    | '#' :: cs => skipSpace bound (cs.dropWhile isPlain)
    | cs =>
      match lineBreak? cs with
      | some cs => skipSpace bound cs
      | none => cs

/-- How many arrays and inline tables may stand in one another. -/
def deepestNesting : Nat := 80

mutual

/-- Reads a value in which arrays and inline tables may stand `levels` deep. -/
def readValue : Nat → Nat → List Char → Option (Node × List Char)
  | 0, _, _ => none
  | bound + 1, levels, cs =>
    match readString? cs with
    | some read => read.map fun (s, cs) => (.text s, cs)
    | none =>
      match cs, levels with
      | '[' :: _, 0 => none
      | '\x7b' :: _, 0 => none
      | '[' :: cs, levels + 1 => (readItems bound levels (skipSpace bound cs)).map fun cs => (.array, cs)
      | '\x7b' :: cs, levels + 1 =>
        (readPairs bound levels [] (skipSpace bound cs)).map fun (entries, cs) => (.inline entries, cs)
      | cs, _ => (readWord? (takeWord cs).1).map fun node => (node, (takeWord cs).2)

/-- The rest of the text after the items of an array. -/
def readItems : Nat → Nat → List Char → Option (List Char)
  | 0, _, _ => none
  | _ + 1, _, ']' :: cs => some cs
  | bound + 1, levels, cs => do
    let (_, cs) ← readValue bound levels cs
    match skipSpace bound cs with
    | ',' :: cs => readItems bound levels (skipSpace bound cs)
    | ']' :: cs => some cs
    | _ => none

/-- The pairs of an inline table. -/
def readPairs : Nat → Nat → Entries → List Char → Option (Entries × List Char)
  | 0, _, _, _ => none
  | _ + 1, _, entries, '\x7d' :: cs => some (entries, cs)
  | bound + 1, levels, entries, cs => do
    let (path, cs) ← readKey cs
    match skipSpace bound cs with
    | '=' :: cs =>
      let (node, cs) ← readValue bound levels (skipSpace bound cs)
      let entries ← entries.enterDotted (path.getLastD "") node path.dropLast
      match skipSpace bound cs with
      | ',' :: cs => readPairs bound levels entries (skipSpace bound cs)
      | '\x7d' :: cs => some (entries, cs)
      | _ => none
    | _ => none

end

/-! ## Lines -/

/-- The document so far, and the header path of the open section. -/
structure Sections where
  root : Entries := []
  path : List String := []

namespace Sections

def enter (s : Sections) (path : List String) (node : Node) : Option Sections :=
  (Entries.within (fun entries => entries.enterDotted (path.getLastD "") node path.dropLast) s.path s.root).map
    fun root => { s with root }

def openTable (s : Sections) (path : List String) : Option Sections :=
  (Entries.within (fun entries => entries.openTable (path.getLastD "")) path.dropLast s.root).map
    fun root => ⟨root, path⟩

def openNext (s : Sections) (path : List String) : Option Sections :=
  (Entries.within (fun entries => entries.openNext (path.getLastD "")) path.dropLast s.root).map
    fun root => ⟨root, path⟩

end Sections

/-- Reads a line up to its comment or its end. -/
def readLine (bound : Nat) (s : Sections) (cs : List Char) : Option (Sections × List Char) :=
  match cs with
  | [] => some (s, [])
  | '#' :: _ => some (s, cs)
  | '\n' :: _ => some (s, cs)
  | '\r' :: _ => some (s, cs)
  | '[' :: '[' :: cs => do
    let (path, cs) ← readKey (skipBlanks cs)
    match cs with
    | ']' :: ']' :: cs => (s.openNext path).map (·, cs)
    | _ => none
  | '[' :: cs => do
    let (path, cs) ← readKey (skipBlanks cs)
    match cs with
    | ']' :: cs => (s.openTable path).map (·, cs)
    | _ => none
  | cs => do
    let (path, cs) ← readKey cs
    match cs with
    | '=' :: cs =>
      let (node, cs) ← readValue bound deepestNesting (skipBlanks cs)
      (s.enter path node).map (·, cs)
    | _ => none

def skipComment : List Char → List Char
  | '#' :: cs => cs.dropWhile isPlain
  | cs => cs

def readLines (bound : Nat) : Nat → Sections → List Char → Option Sections
  | 0, _, _ => none
  | lines + 1, s, cs => do
    let (s, cs) ← readLine bound s (skipBlanks cs)
    match skipComment (skipBlanks cs) with
    | [] => some s
    | cs =>
      match lineBreak? cs with
      | some cs => readLines bound lines s cs
      | none => none

/-- A byte order mark may come first. -/
def skipMark : List Char → List Char
  | c :: cs => if c.toNat = 0xFEFF then cs else c :: cs
  | [] => []

/-- The entries of a document, unless it is malformed. -/
def parse? (s : String) : Option Entries :=
  let cs := skipMark s.toList
  (readLines (cs.length + 1) (cs.length + 1) {} cs).map (·.root)

end EntityGraph.Toml
