import EntityGraph.Scalar
/-!
# Models

What a model class has declared about itself: the entity it stands for, if any, and its fields.
-/

namespace EntityGraph

/-- The flat key by which a foreign key may also be supplied. -/
inductive IdColumn
  | named (key : String)
  /-- Made from the target's entity name and the name of its primary key. -/
  | conventional
deriving DecidableEq

inductive FieldKind
  | primaryKey (scalar : Scalar)
  | column (scalar : Scalar)
  | foreignKey (target : String) (idColumn : Option IdColumn)
deriving DecidableEq

namespace FieldKind

def isPrimaryKey : FieldKind → Bool
  | .primaryKey _ => true
  | _ => false

def isForeignKey : FieldKind → Bool
  | .foreignKey _ _ => true
  | _ => false

def scalar? : FieldKind → Option Scalar
  | .primaryKey s => some s
  | .column s => some s
  | .foreignKey _ _ => none

end FieldKind

structure Field where
  /-- The key on instances. -/
  name : String
  /-- The name in requests and in the schema. -/
  wireName : String
  kind : FieldKind
deriving DecidableEq

structure Model where
  className : String
  /-- The entity's name, once the class is declared to be one. -/
  entity : Option String
  /-- In order of first declaration, names distinct. -/
  fields : List Field
deriving DecidableEq

namespace Model

def empty (className : String) : Model := ⟨className, none, []⟩

def isEntity (m : Model) : Bool := m.entity.isSome

def field? (m : Model) (name : String) : Option Field := m.fields.find? (·.name == name)

/-- Of several primary keys the last declared one counts. -/
def primaryKey? (m : Model) : Option Field := m.fields.reverse.find? (·.kind.isPrimaryKey)

def declareEntity (m : Model) (name : Option String) : Model :=
  { m with entity := some (name.getD m.className) }

/-- Replaces the field of the same name where it stands, or adds the field at the end. -/
def putField : List Field → Field → List Field
  | [], f => [f]
  | g :: gs, f => if g.name = f.name then f :: gs else g :: putField gs f

def declareField (m : Model) (f : Field) : Model := { m with fields := putField m.fields f }

end Model

end EntityGraph
