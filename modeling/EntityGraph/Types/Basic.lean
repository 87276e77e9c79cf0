import EntityGraph.Dict
import EntityGraph.Scalar
/-!
# Compiled types

Every entity is compiled into an output type and, where arguments need it, an input type. A `TypeStore` numbers the
types in the order in which their compilation began. A type's place is reserved before its fields are compiled, so
that a relation can name the type it is part of; until then the slot is empty.
-/

namespace EntityGraph

inductive Flavor
  | output
  | input
deriving DecidableEq

/-- A foreign key as a relation field needs it at request time. -/
structure Relation where
  target : String
  /-- The key on the parent's instance. -/
  fieldKey : String
  /-- The flat key, if the foreign key has one. -/
  idColumn : Option String
deriving DecidableEq

inductive CompiledFieldType
  | scalar (scalar : Scalar)
  | relation (handle : Nat) (relation : Relation)
deriving DecidableEq

structure CompiledField where
  /-- The name in the schema. -/
  name : String
  /-- The key on instances. -/
  key : String
  type : CompiledFieldType
deriving DecidableEq

structure CompiledType where
  handle : Nat
  name : String
  className : String
  flavor : Flavor
  fields : List CompiledField
deriving DecidableEq

namespace CompiledType

def field? (t : CompiledType) (name : String) : Option CompiledField := t.fields.find? (·.name == name)

def fieldNames (t : CompiledType) : List String := t.fields.map (·.name)

end CompiledType

/-- The types compiled so far, and for each flavor the handle of every entity name, in lower case, that has one. -/
structure TypeStore where
  slots : List (Option CompiledType) := []
  outputs : Dict Nat := .empty
  inputs : Dict Nat := .empty

namespace TypeStore

def empty : TypeStore := {}

def size (s : TypeStore) : Nat := s.slots.length

def isEmpty (s : TypeStore) : Bool := s.slots.isEmpty

def handles (s : TypeStore) : Flavor → Dict Nat
  | .output => s.outputs
  | .input => s.inputs

/-- The type behind a handle, once it is finished. -/
def get? (s : TypeStore) (handle : Nat) : Option CompiledType := s.slots[handle]?.join

/-- The finished types in the order of their handles. -/
def types (s : TypeStore) : List CompiledType := s.slots.filterMap id

/-- Opens an empty slot for an entity name. Its handle is the former size. -/
def reserve (s : TypeStore) (flavor : Flavor) (key : String) : TypeStore :=
  let slots := s.slots ++ [none]
  match flavor with
  | .output => { s with slots, outputs := s.outputs.insert key s.size }
  | .input => { s with slots, inputs := s.inputs.insert key s.size }

def finish (s : TypeStore) (t : CompiledType) : TypeStore :=
  { s with slots := s.slots.set t.handle (some t) }

end TypeStore

end EntityGraph
