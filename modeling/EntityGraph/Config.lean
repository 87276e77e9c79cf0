import EntityGraph.Error
import EntityGraph.Text.Name
import EntityGraph.Text.Quoted
/-!
# Configuration

What a schema is built with. Limits must be positive, and input types must get names that the query language allows.
-/

namespace EntityGraph

structure Settings where
  maxDepth : Nat := 15
  maxComplexity : Nat := 500
  introspection : Bool := true
  /-- What the names of input types begin with. -/
  inputPrefix : String := "input"
  /-- The declared type of the parameter that stands for the request context. -/
  contextTypeName : String := "ResContext"

structure Config extends Settings where
  logLevel : String := "info"

inductive ConfigFault
  | zeroDepth
  | zeroComplexity
  | invalidPrefix (s : String)
  | emptyContextTypeName
deriving DecidableEq

def ConfigFault.reason : ConfigFault → String
  | .zeroDepth => "max_depth must be > 0"
  | .zeroComplexity => "max_complexity must be > 0"
  | .invalidPrefix s => "input_type_prefix " ++ Text.quoted s ++ " is not a valid GraphQL name"
  | .emptyContextTypeName => "context_type_name must not be empty"

/-- The first fault of the settings, if they have one. -/
def Settings.fault? (s : Settings) : Option ConfigFault :=
  if s.maxDepth = 0 then some .zeroDepth
  else if s.maxComplexity = 0 then some .zeroComplexity
  else if !Text.isGraphName s.inputPrefix then some (.invalidPrefix s.inputPrefix)
  else if s.contextTypeName.isEmpty then some .emptyContextTypeName
  else none

def Config.validate (c : Config) : Except GraphError Unit :=
  match c.toSettings.fault? with
  | some fault => .error (.invalidConfig fault.reason)
  | none => .ok ()

end EntityGraph
