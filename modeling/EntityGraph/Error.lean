/-!
# Errors

Most faults of a declaration do not stop anything: they are noted and leave a field out or null. `GraphError` holds
what is left, and `Failure` is how one field reports to the client that asked for it.
-/

namespace EntityGraph

/-- A field's error as the client sees it, with its machine-readable code. -/
structure Failure where
  message : String
  code : Option String
deriving DecidableEq

inductive GraphError
  /-- The assembled schema was refused. -/
  | schemaBuildFailed (reason : String)
  | invalidConfig (reason : String)
  /-- No output type was compiled for this class. -/
  | unknownModel (className : String)
  /-- A handler was declared for another implementation than the registered instance has. -/
  | resolverMismatch (className : String)
  | unreadableInstance
  | malformedConfig
deriving DecidableEq

namespace GraphError

def code : GraphError → String
  | .schemaBuildFailed _ => "SCHEMA_BUILD_FAILED"
  | .invalidConfig _ => "INVALID_CONFIG"
  | .malformedConfig => "INVALID_CONFIG"
  | .unknownModel _ => "UNKNOWN_MODEL"
  | .resolverMismatch _ => "RESOLVER_MISMATCH"
  | .unreadableInstance => "DESERIALIZE_ERROR"

def message : GraphError → String
  | .schemaBuildFailed reason => "Failed to build GraphQL schema: " ++ reason
  | .invalidConfig reason => "Invalid configuration: " ++ reason
  | .malformedConfig => "Configuration parse error"
  | .unknownModel c => "Unknown model: " ++ c
  | .resolverMismatch c => "Resolver " ++ c ++ " does not match the type its handlers were declared for"
  | .unreadableInstance => "Deserialization error"

def toFailure (e : GraphError) : Failure := ⟨e.message, some e.code⟩

end GraphError

end EntityGraph
