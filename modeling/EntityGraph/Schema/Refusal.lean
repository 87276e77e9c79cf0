import EntityGraph.Schema.Table
/-!
# What a table of types must not hold

A type must not take the name of a scalar. Names of fields and arguments that begin with two underscores are reserved.
An output field must not have an input type, nor an argument or an input field an output type. The first offence
refuses the whole schema: a scalar's name comes before all else, the fields of output types come before those of input
types, and otherwise the order of the table and of the fields decides.
-/

namespace EntityGraph

inductive Refusal
  | scalarRedefined (type : String)
  | reservedField (type field : String)
  | inputReturned (type field : String)
  | reservedArgument (type field argument : String)
  | outputAccepted (type field argument : String)
  | outputInInput (type field : String)
deriving DecidableEq

namespace Refusal

def reservedReason : String := " must not have a name which begins with the characters \"__\" (two underscores)"

def fieldPath (type field : String) : String := "Field \"" ++ type ++ "." ++ field ++ "\""

def argumentPath (type field argument : String) : String :=
  "Argument \"" ++ type ++ "." ++ field ++ "." ++ argument ++ "\""

def message : Refusal → String
  | .scalarRedefined t => "Type \"" ++ t ++ "\" already exists"
  | .reservedField t f => fieldPath t f ++ reservedReason
  | .inputReturned t f => fieldPath t f ++ " must return a output type"
  | .reservedArgument t f a => argumentPath t f a ++ reservedReason
  | .outputAccepted t f a => argumentPath t f a ++ " must accept a input type"
  | .outputInInput t f => fieldPath t f ++ " must accept a input type"

end Refusal

def isReserved (name : String) : Bool :=
  match name.toList with
  | '_' :: '_' :: _ => true
  | _ => false

namespace TypeTable

/-- `r`, if `b` holds. -/
def offence (b : Bool) (r : Refusal) : List Refusal := if b then [r] else []

def argumentOffences (table : TypeTable) (type field : String) (a : String × TypeRef) : List Refusal :=
  offence (isReserved a.1) (.reservedArgument type field a.1)
    ++ offence (table.output? a.2.name).isSome (.outputAccepted type field a.1)

def outputFieldOffences (table : TypeTable) (type : String) (f : OutputField) : List Refusal :=
  offence (isReserved f.name) (.reservedField type f.name)
    ++ offence (table.input? f.type.name).isSome (.inputReturned type f.name)
    ++ f.arguments.entries.flatMap (table.argumentOffences type f.name)

def inputFieldOffences (table : TypeTable) (type : String) (f : InputField) : List Refusal :=
  offence (isReserved f.name) (.reservedField type f.name)
    ++ offence (table.output? f.type.name).isSome (.outputInInput type f.name)

def scalarOffences (table : TypeTable) : List Refusal :=
  (table.keys.filter fun name => (Scalar.ofSchemaName? name).isSome).map .scalarRedefined

def offences (table : TypeTable) : List Refusal :=
  table.scalarOffences
    ++ table.outputs.flatMap (fun t => t.fields.flatMap (table.outputFieldOffences t.name))
    ++ table.inputs.flatMap (fun t => t.fields.flatMap (table.inputFieldOffences t.name))

def refusal? (table : TypeTable) : Option Refusal := table.offences.head?

end TypeTable

end EntityGraph
