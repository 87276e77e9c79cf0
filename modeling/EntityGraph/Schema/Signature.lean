import EntityGraph.Scalar
/-!
# What a schema says of its types

A signature is what clients may know of a type: its kind, and the names and types of its fields and arguments. The type
of a field is read off its text, in which an exclamation mark at the end forbids null and brackets make a list. Names
of types are not checked, so a text may say more than the name that it was made of.
-/

namespace EntityGraph

inductive TypeShape
  | named (name : String)
  | list (item : TypeShape)
  | nonNull (inner : TypeShape)
deriving DecidableEq

namespace TypeShape

/-- What begins with a bracket is a list of what stands between its first and its last character. -/
def ofChars : List Char → TypeShape
  | [] => .named ""
  | c :: cs =>
    if (c :: cs).getLast? = some '!' then .nonNull (ofChars (c :: cs).dropLast)
    else if c = '[' then .list (ofChars cs.dropLast)
    else .named (String.ofList (c :: cs))
termination_by cs => cs.length
decreasing_by all_goals simp; try omega

def ofText (s : String) : TypeShape := ofChars s.toList

def toText : TypeShape → String
  | .named name => name
  | .list t => "[" ++ t.toText ++ "]"
  | .nonNull t => t.toText ++ "!"

/-- The name inside. -/
def concrete : TypeShape → String
  | .named name => name
  | .list t => t.concrete
  | .nonNull t => t.concrete

def isNonNull : TypeShape → Bool
  | .nonNull _ => true
  | _ => false

/-- The type of the items, if lists are expected. -/
def item? : TypeShape → Option TypeShape
  | .named _ => none
  | .list t => some t
  | .nonNull t => t.item?

end TypeShape

/-- An argument or a field of an input type. -/
structure InputValue where
  name : String
  type : TypeShape
  /-- The text of the default value. -/
  default : Option String := none

/-- Whether something must be supplied. -/
def InputValue.isRequired (v : InputValue) : Bool := v.type.isNonNull && v.default.isNone

structure FieldSignature where
  name : String
  type : TypeShape
  arguments : List InputValue := []

inductive TypeSignature
  | scalar (scalar : Scalar)
  | enumeration (values : List String)
  | object (fields : List FieldSignature)
  | input (fields : List InputValue)

namespace TypeSignature

/-- A field that can be asked for. -/
def field? : TypeSignature → String → Option FieldSignature
  | .object fields, name => fields.find? (·.name == name)
  | _, _ => none

/-- Whether values are asked for as they are, without a choice of fields. -/
def isLeaf : TypeSignature → Bool
  | .scalar _ => true
  | .enumeration _ => true
  | _ => false

end TypeSignature

end EntityGraph
