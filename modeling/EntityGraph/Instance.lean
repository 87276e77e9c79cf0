import EntityGraph.Error
import EntityGraph.Value
/-!
# Model instances

An instance is a class name and the fields assigned so far, in order of first assignment. It turns into an object
value and back without losing that order, and a related instance is stored as such an object.
-/

namespace EntityGraph

structure Instance where
  className : String
  fields : Entries Value

namespace Instance

/-- An instance with nothing assigned. -/
def empty (className : String) : Instance := ⟨className, []⟩

/-- Reads an object as an instance; no other value is one. -/
def ofValue? (className : String) : Value → Option Instance
  | .object fields => some ⟨className, fields⟩
  | _ => none

def toValue (i : Instance) : Value := .object i.fields

def get? (i : Instance) (field : String) : Option Value := i.fields.get? field

/-- Whether the field was assigned, if only to null. -/
def isSet (i : Instance) (field : String) : Bool := i.fields.contains field

def set (i : Instance) (field : String) (v : Value) : Instance :=
  { i with fields := i.fields.insert field v }

/-- The related instance stored under a field. -/
def nested? (i : Instance) (field className : String) : Option Instance :=
  (i.get? field).bind (ofValue? className)

def fieldNames (i : Instance) : List String := i.fields.keys

def size (i : Instance) : Nat := i.fields.length

def isEmpty (i : Instance) : Bool := i.fields.isEmpty

def same (i j : Instance) : Bool :=
  i.className == j.className && i.toValue.same j.toValue

/-! ## Typed reading -/

/-- Reads the whole instance by `decode`. -/
def decode {α : Type} (decode : Value → Option α) (i : Instance) : Except GraphError α :=
  match decode i.toValue with
  | some a => .ok a
  | none => .error .unreadableInstance

end Instance

/-- A record of an integer id and, perhaps, a name. -/
structure NamedRecord where
  id : Int
  name : Option String

/-- Fields other than `id` and `name` do not count, and a null name is none. -/
def NamedRecord.ofValue? (v : Value) : Option NamedRecord := do
  let id ← (← v.get? "id").asInt64?
  match v.get? "name" with
  | none => some ⟨id, none⟩
  | some .null => some ⟨id, none⟩
  | some w => (w.asText?).map fun name => ⟨id, some name⟩

end EntityGraph
