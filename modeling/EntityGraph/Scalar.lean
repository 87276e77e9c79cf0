import EntityGraph.Text.Ascii
/-!
# Scalars and declared types

A `TypeRef` is a type as a declaration writes it: a name, perhaps of a list. The name is a scalar's or a class's, and
scalar names are recognised first.
-/

namespace EntityGraph

inductive Scalar
  | string
  | float
  | boolean
  | int
  | id
deriving DecidableEq

namespace Scalar

/-- The scalar's name in the schema. -/
def name : Scalar → String
  | .string => "String"
  | .float => "Float"
  | .boolean => "Boolean"
  | .int => "Int"
  | .id => "ID"

/-- Names by which declarations may call a scalar, in lower case. -/
def aliases : List (String × Scalar) :=
  [("string", .string), ("number", .float), ("float", .float), ("boolean", .boolean), ("bool", .boolean),
    ("int", .int), ("integer", .int), ("id", .id)]

/-- The scalar that a declaration calls `s`, in any mix of cases. -/
def ofName? (s : String) : Option Scalar := aliases.lookup (Text.asciiLower s)

def all : List Scalar := [.string, .float, .boolean, .int, .id]

/-- The scalar of exactly this schema name. -/
def ofSchemaName? (s : String) : Option Scalar := all.find? (·.name == s)

end Scalar

structure TypeRef where
  name : String
  list : Bool
deriving DecidableEq

namespace TypeRef

def named (name : String) : TypeRef := ⟨name, false⟩

def listOf (name : String) : TypeRef := ⟨name, true⟩

def ofScalar (s : Scalar) : TypeRef := named s.name

def scalar? (t : TypeRef) : Option Scalar := Scalar.ofName? t.name

/-- The same shape with another name. -/
def withName (t : TypeRef) (name : String) : TypeRef := ⟨name, t.list⟩

def toText (t : TypeRef) : String := if t.list then "[" ++ t.name ++ "]" else t.name

end TypeRef

end EntityGraph
