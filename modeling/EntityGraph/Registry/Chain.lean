import EntityGraph.Registry.Basic
/-!
# Chained declarations

A class declares itself in a chain: `registry.entity "Pet" |>.primaryKey "id" .float |>.column "name" .string`. Every
link adds to the registry at once, so a chain may be left off anywhere. A method's chain remembers the kind and the
return type it was started with, because giving the method a name declares it again.

`EntityLink` and `MethodLink` are the links as data, for chains that are read rather than written.
-/

namespace EntityGraph

/-! ## Entities -/

structure EntityChain where
  registry : Registry
  className : String

namespace Registry

def entity (r : Registry) (className : String) : EntityChain := ⟨r.declareEntity className none, className⟩

def entityNamed (r : Registry) (className name : String) : EntityChain :=
  ⟨r.declareEntity className (some name), className⟩

end Registry

namespace EntityChain

def declare (c : EntityChain) (field : String) (kind : FieldKind) (wireName : Option String) : EntityChain :=
  { c with registry := c.registry.declareField c.className field kind wireName }

def primaryKey (c : EntityChain) (field : String) (scalar : Scalar) : EntityChain :=
  c.declare field (.primaryKey scalar) none

def primaryKeyAs (c : EntityChain) (field : String) (scalar : Scalar) (wireName : String) : EntityChain :=
  c.declare field (.primaryKey scalar) (some wireName)

def column (c : EntityChain) (field : String) (scalar : Scalar) : EntityChain :=
  c.declare field (.column scalar) none

def columnAs (c : EntityChain) (field : String) (scalar : Scalar) (wireName : String) : EntityChain :=
  c.declare field (.column scalar) (some wireName)

/-- A foreign key that is supplied as an object only. -/
def foreignKey (c : EntityChain) (field target : String) : EntityChain :=
  c.declare field (.foreignKey target none) none

/-- A foreign key that may also be supplied as an id under a key of its own. -/
def foreignKeyWithId (c : EntityChain) (field target key : String) : EntityChain :=
  c.declare field (.foreignKey target (some (.named key))) none

/-- A foreign key that may also be supplied as an id under the conventional key. -/
def foreignKeyFlat (c : EntityChain) (field target : String) : EntityChain :=
  c.declare field (.foreignKey target (some .conventional)) none

end EntityChain

inductive EntityLink
  | primaryKey (field : String) (scalar : Scalar)
  | primaryKeyAs (field : String) (scalar : Scalar) (wireName : String)
  | column (field : String) (scalar : Scalar)
  | columnAs (field : String) (scalar : Scalar) (wireName : String)
  | foreignKey (field target : String)
  | foreignKeyWithId (field target key : String)
  | foreignKeyFlat (field target : String)

def EntityChain.link (c : EntityChain) : EntityLink → EntityChain
  | .primaryKey field scalar => c.primaryKey field scalar
  | .primaryKeyAs field scalar wireName => c.primaryKeyAs field scalar wireName
  | .column field scalar => c.column field scalar
  | .columnAs field scalar wireName => c.columnAs field scalar wireName
  | .foreignKey field target => c.foreignKey field target
  | .foreignKeyWithId field target key => c.foreignKeyWithId field target key
  | .foreignKeyFlat field target => c.foreignKeyFlat field target

/-! ## Resolver methods -/

structure MethodChain where
  registry : Registry
  className : String
  /-- The implementation whose instances the handlers of this chain run on. -/
  implementation : String
  method : String
  kind : RootKind
  returns : Option TypeRef

namespace Registry

/-- Starts the chain of a method with a return type, or of an untyped one. -/
def method (r : Registry) (className implementation method : String) (kind : RootKind)
    (returns : Option TypeRef) : MethodChain :=
  ⟨r.declareMethod className method kind none returns, className, implementation, method, kind, returns⟩

def query (r : Registry) (className implementation method : String) (returns : TypeRef) : MethodChain :=
  r.method className implementation method .query (some returns)

def mutation (r : Registry) (className implementation method : String) (returns : TypeRef) : MethodChain :=
  r.method className implementation method .mutation (some returns)

def untyped (r : Registry) (className implementation method : String) (kind : RootKind) : MethodChain :=
  r.method className implementation method kind none

end Registry

namespace MethodChain

/-- Exposes the method under another name. -/
def named (c : MethodChain) (name : String) : MethodChain :=
  { c with registry := c.registry.declareMethod c.className c.method c.kind (some name) c.returns }

def parameter (c : MethodChain) (name : String) (type : TypeRef) : MethodChain :=
  { c with registry := c.registry.declareParameter c.className c.method name type }

def parameterOverride (c : MethodChain) (position : Nat) (type : TypeRef) : MethodChain :=
  { c with registry := c.registry.declareOverride c.className c.method position type }

def guard (c : MethodChain) (g : Guard) : MethodChain :=
  { c with registry := c.registry.declareGuard c.className c.method g }

/-- Binds a body that runs on instances of the chain's implementation only. -/
def handler (c : MethodChain) (body : Call → Response → Except Failure Value × Response) : MethodChain :=
  { c with registry := c.registry.declareHandler c.className c.method ⟨some c.implementation, body⟩ }

end MethodChain

inductive MethodLink
  | named (name : String)
  | parameter (name : String) (type : TypeRef)
  | parameterOverride (position : Nat) (type : TypeRef)
  | guard (guard : Guard)
  | handler (body : Call → Response → Except Failure Value × Response)

def MethodChain.link (c : MethodChain) : MethodLink → MethodChain
  | .named name => c.named name
  | .parameter name type => c.parameter name type
  | .parameterOverride position type => c.parameterOverride position type
  | .guard g => c.guard g
  | .handler body => c.handler body

/-! ## Programs -/

/-- A chain as it was written: where it starts and its links in order. -/
inductive Chain
  | entity (className : String) (name : Option String) (links : List EntityLink)
  | method (className implementation method : String) (kind : RootKind) (returns : Option TypeRef)
      (links : List MethodLink)

namespace Registry

def chain (r : Registry) : Chain → Registry
  | .entity c none links => (links.foldl EntityChain.link (r.entity c)).registry
  | .entity c (some name) links => (links.foldl EntityChain.link (r.entityNamed c name)).registry
  | .method c implementation m kind returns links =>
    (links.foldl MethodChain.link (r.method c implementation m kind returns)).registry

end Registry

end EntityGraph
