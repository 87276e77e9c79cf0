import EntityGraph.Call
import EntityGraph.Guard
import EntityGraph.Scalar
import EntityGraph.Text.Quoted
/-!
# Resolver methods

What a resolver class has declared about one of its methods. Any part may be missing; a method is exposed only if its
kind, its return type and its handler are known.
-/

namespace EntityGraph

/-- The root on which a method is exposed. -/
inductive RootKind
  | query
  | mutation
deriving DecidableEq

structure Parameter where
  name : String
  type : TypeRef
deriving DecidableEq

/-- Another type for the parameter at a position. -/
structure ParameterOverride where
  position : Nat
  type : TypeRef
deriving DecidableEq

structure Method where
  name : String
  kind : Option RootKind := none
  /-- The name to expose the method under, if not its own. -/
  exposedAs : Option String := none
  returns : Option TypeRef := none
  parameters : List Parameter := []
  /-- In the order in which they run: the guard declared last is first. -/
  guards : List Guard := []
  overrides : List ParameterOverride := []
  handler : Option Handler := none

namespace Method

def exposedName (m : Method) : String := m.exposedAs.getD m.name

/-- The type of the parameter at a position: that of the last override for it, else the declared one. -/
def parameterType? (m : Method) (position : Nat) : Option TypeRef :=
  match m.overrides.reverse.find? (·.position == position) with
  | some o => some o.type
  | none => m.parameters[position]?.map (·.type)

/-! ## Declarations -/

def declareKind (m : Method) (kind : RootKind) (exposedAs : Option String) (returns : Option TypeRef) : Method :=
  { m with kind := some kind, exposedAs, returns }

def addGuard (m : Method) (g : Guard) : Method := { m with guards := g :: m.guards }

def addOverride (m : Method) (o : ParameterOverride) : Method := { m with overrides := m.overrides ++ [o] }

def addParameter (m : Method) (p : Parameter) : Method := { m with parameters := m.parameters ++ [p] }

def bindHandler (m : Method) (h : Handler) : Method := { m with handler := some h }

/-! ## Description

One line for diagnosis. Guards are counted, and of the handler only its presence is told. -/

def describeRecord (name : String) (fields : List (String × String)) : String :=
  name ++ " \x7b " ++ ", ".intercalate (fields.map fun f => f.1 ++ ": " ++ f.2) ++ " \x7d"

def describeOption {α : Type} (describe : α → String) : Option α → String
  | some a => "Some(" ++ describe a ++ ")"
  | none => "None"

def describeList {α : Type} (describe : α → String) (items : List α) : String :=
  "[" ++ ", ".intercalate (items.map describe) ++ "]"

def describeBool (b : Bool) : String := if b then "true" else "false"

def describeKind : RootKind → String
  | .query => "Query"
  | .mutation => "Mutation"

def describeType (t : TypeRef) : String :=
  describeRecord "TypeDescriptor" [("name", Text.quoted t.name), ("list", describeBool t.list)]

def describeParameter (p : Parameter) : String :=
  describeRecord "ParamDescriptor" [("name", Text.quoted p.name), ("ty", describeType p.type)]

def describeOverride (o : ParameterOverride) : String :=
  describeRecord "ParamOverride" [("index", toString o.position), ("ty", describeType o.type)]

def describe (m : Method) : String :=
  describeRecord "ResolverMethodDescriptor" [
    ("method", Text.quoted m.name),
    ("kind", describeOption describeKind m.kind),
    ("name", describeOption Text.quoted m.exposedAs),
    ("returns", describeOption describeType m.returns),
    ("params", describeList describeParameter m.parameters),
    ("guards", toString m.guards.length),
    ("overrides", describeList describeOverride m.overrides),
    ("handler", describeBool m.handler.isSome)]

end Method

end EntityGraph
