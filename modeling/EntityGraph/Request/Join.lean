import EntityGraph.Entries
import EntityGraph.Value
/-!
# Objects of a response

Two fields with one response key both run, and what they give is joined under the key.
-/

namespace EntityGraph

mutual

/-- Joins two values for one response key: objects field by field, lists item by item, and else the first stays. -/
def joinValues : Value → Value → Value
  | .object fs, .object gs => .object (joinFields fs gs)
  | .list xs, .list ys => .list (joinItems xs ys)
  | v, _ => v

/-- Joins the items of two lists: objects with objects, and else those of the first list stay. -/
def joinItems : List Value → List Value → List Value
  | .object fs :: xs, .object gs :: ys => .object (joinFields fs gs) :: joinItems xs ys
  | x :: xs, _ :: ys => x :: joinItems xs ys
  | xs, _ => xs

/-- Joins the fields of two objects; those of the second that are new go last. -/
def joinFields : List (String × Value) → List (String × Value) → List (String × Value)
  | [], gs => gs
  | (k, v) :: fs, gs =>
    (k, match Entries.get? gs k with | some w => joinValues v w | none => v)
      :: joinFields fs (gs.filter (·.1 != k))

end

/-- The object that a list of fields makes up. -/
def joinedObject (fields : List (String × Value)) : Value :=
  .object (fields.foldl (fun fs f => joinFields fs [f]) [])

end EntityGraph
