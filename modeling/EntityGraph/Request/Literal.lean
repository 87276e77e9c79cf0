import EntityGraph.Request.Word
/-!
# Arguments as a request writes them

The arguments of a request are literals in its text and reach the schema as they are read there. Bytes are written as a
list of numbers, numbers as their shortest text, and names of enum values bare. In a list a name may so come to be no
item or several; anywhere else it must be one. The keys of objects must be names.
-/

namespace EntityGraph.Value

/-- The single literal among those that a value is read as. -/
def single? : Option (List Value) → Option Value
  | some [v] => some v
  | _ => none

mutual

/-- The literals that a value is read as in a list. -/
def literals? : Value → Option (List Value)
  | .null => some [.null]
  | .boolean b => some [.boolean b]
  | .number n => n.reread?.map fun m => [.number m]
  | .text s => some [.text s]
  | .enumeration name => Word.read? name
  | .binary bytes => some [.list (bytes.map fun b : Nat => .number (.int (b : Int)))]
  | .list items => (itemLiterals? items).map fun vs => [.list vs]
  | .object fields => (fieldLiterals? fields).map fun fs => [.object fs]

def itemLiterals? : List Value → Option (List Value)
  | [] => some []
  | v :: vs => v.literals?.bind fun ws => (itemLiterals? vs).map (ws ++ ·)

def fieldLiterals? : List (String × Value) → Option (List (String × Value))
  | [] => some []
  | (key, v) :: fields =>
    if Text.isGraphName key then
      (single? v.literals?).bind fun w => (fieldLiterals? fields).map ((key, w) :: ·)
    else none

end

end EntityGraph.Value
