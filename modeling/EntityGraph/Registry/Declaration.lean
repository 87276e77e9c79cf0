import EntityGraph.Registry.Basic
/-!
# Declarations as data

A registry is the summary of a list of declarations read in order.
-/

namespace EntityGraph

inductive Declaration
  | entity (className : String) (name : Option String)
  | field (className field : String) (kind : FieldKind) (wireName : Option String)
  | method (className method : String) (kind : RootKind) (exposedAs : Option String) (returns : Option TypeRef)
  | guard (className method : String) (guard : Guard)
  | parameterOverride (className method : String) (position : Nat) (type : TypeRef)
  | parameter (className method name : String) (type : TypeRef)
  | handler (className method : String) (handler : Handler)

namespace Registry

def declare (r : Registry) : Declaration → Registry
  | .entity c name => r.declareEntity c name
  | .field c f kind wireName => r.declareField c f kind wireName
  | .method c m kind exposedAs returns => r.declareMethod c m kind exposedAs returns
  | .guard c m g => r.declareGuard c m g
  | .parameterOverride c m position type => r.declareOverride c m position type
  | .parameter c m name type => r.declareParameter c m name type
  | .handler c m h => r.declareHandler c m h

def declareAll (r : Registry) (declarations : List Declaration) : Registry := declarations.foldl declare r

def ofDeclarations (declarations : List Declaration) : Registry := empty.declareAll declarations

end Registry

end EntityGraph
