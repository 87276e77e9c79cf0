import EntityGraph.Entries
/-!
# Tables of a TOML document

A table is opened by a header, by a dotted key or on the way to either, and how it was opened decides who may add to
it: a header may name a table only once, and may not name one that a dotted key made; a dotted key may go through
any table that no header named, but the one it adds to must have been made by dotted keys, or be the section itself.
Inline tables are closed.
-/

namespace EntityGraph.Toml

/-- How a table came into being. -/
inductive Origin
  /-- Named by a header of its own. -/
  | header
  /-- On the way to a table that a header named. -/
  | passed
  /-- Made by a dotted key. -/
  | dotted
deriving DecidableEq

inductive Node
  | integer (n : Int)
  | float
  | boolean (b : Bool)
  | text (s : String)
  /-- A date, a time of day or both. -/
  | moment
  | array
  | inline (entries : List (String × Node))
  | table (origin : Origin) (entries : List (String × Node))
  /-- An array of tables, by the one that was opened last. -/
  | tables (last : List (String × Node))

abbrev Entries := List (String × Node)

/-- Changes the table that `path` leads to by way of header names, opening what is missing. `change` is told how the
table came into being. -/
def Entries.within (change : Entries → Option Entries) : List String → Entries → Option Entries
  | [], entries => change entries
  | key :: path, entries =>
    match Entries.get? entries key with
    | none => (within change path []).map fun inner => Entries.insert entries key (.table .passed inner)
    | some (.table origin inner) =>
      (within change path inner).map fun inner => Entries.insert entries key (.table origin inner)
    | some (.tables last) => (within change path last).map fun last => Entries.insert entries key (.tables last)
    | some _ => none

/-- Enters a value that has no entry yet. -/
def Entries.enter (key : String) (node : Node) (entries : Entries) : Option Entries :=
  if Entries.contains entries key then none else some (Entries.insert entries key node)

/-- Enters a value under a dotted key, whose parts but the last are the path. -/
def Entries.enterDotted (key : String) (node : Node) : List String → Entries → Option Entries
  | [], entries => entries.enter key node
  | k :: path, entries =>
    match Entries.get? entries k with
    | none => (enterDotted key node path []).map fun inner => Entries.insert entries k (.table .dotted inner)
    | some (.table .header _) => none
    | some (.table .dotted inner) =>
      (enterDotted key node path inner).map fun inner => Entries.insert entries k (.table .dotted inner)
    | some (.table .passed inner) =>
      if path.isEmpty then none
      else (enterDotted key node path inner).map fun inner => Entries.insert entries k (.table .passed inner)
    | some (.tables last) =>
      if path.isEmpty then none
      else (enterDotted key node path last).map fun last => Entries.insert entries k (.tables last)
    | some _ => none

/-- Opens the table that a header names. -/
def Entries.openTable (key : String) (entries : Entries) : Option Entries :=
  match Entries.get? entries key with
  | none => some (Entries.insert entries key (.table .header []))
  | some (.table .passed inner) => some (Entries.insert entries key (.table .header inner))
  | some _ => none

/-- Opens the next table of the array that a header names. -/
def Entries.openNext (key : String) (entries : Entries) : Option Entries :=
  match Entries.get? entries key with
  | none => some (Entries.insert entries key (.tables []))
  | some (.tables _) => some (Entries.insert entries key (.tables []))
  | some _ => none

end EntityGraph.Toml
