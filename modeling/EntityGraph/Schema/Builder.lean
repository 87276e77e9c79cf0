import EntityGraph.Schema.Prepare
import EntityGraph.Schema.Sdl
import EntityGraph.Schema.Visible
/-!
# Building schemas

A builder holds what has been registered: the types compiled so far, the model classes, and the resolver instances
that the next build will expose. A build takes the instances, whatever comes of it, and leaves the types.
-/

namespace EntityGraph

structure Schema where
  roots : Roots
  table : TypeTable
  maxDepth : Nat
  maxComplexity : Nat
  introspection : Bool

namespace Schema

def queryFields (s : Schema) : List String := s.roots.query.keys

def mutationFields (s : Schema) : List String := s.roots.mutation.keys

def hasMutation (s : Schema) : Bool := s.roots.hasMutation

def sdl (s : Schema) : String := Sdl.render s.table s.hasMutation

def catalog (s : Schema) : Catalog := .ofTable s.table s.introspection

/-- The names of the root types. -/
def rootNames (s : Schema) : List String :=
  RootKind.query.typeName :: (if s.hasMutation then [RootKind.mutation.typeName] else [])

end Schema

/-- Why there is no schema. -/
inductive BuildFailure
  /-- A type would have two fields of this name; nothing was handed over to be checked. -/
  | repeatedField (name : String)
  | refused (e : GraphError)
deriving DecidableEq

def BuildFailure.message : BuildFailure → String
  | .repeatedField name => "Field `" ++ name ++ "` already exists"
  | .refused e => e.message

/-! ## Assemblies -/

/-- The roots and the compiled types that are to become a schema. -/
structure Assembly where
  roots : Roots
  types : List SchemaType

namespace Assembly

def repeatedField? (a : Assembly) : Option String := a.types.findSome? (·.repeatedField?)

def table (a : Assembly) : TypeTable := TypeTable.ofTypes (a.types ++ a.roots.schemaTypes)

/-- Checks the assembly, field names before all else. -/
def toSchema (a : Assembly) (s : Settings) : Except BuildFailure Schema :=
  match a.repeatedField? with
  | some name => .error (.repeatedField name)
  | none =>
    match a.table.refusal? with
    | some refusal => .error (.refused (.schemaBuildFailed refusal.message))
    | none => .ok ⟨a.roots, a.table, s.maxDepth, s.maxComplexity, s.introspection⟩

end Assembly

/-! ## Builders -/

structure Builder where
  registry : Registry
  settings : Settings
  store : TypeStore := .empty
  /-- Entity classes registered so far. -/
  models : List String := []
  /-- Instances that wait for the next build. -/
  resolvers : List ResolverInstance := []
  /-- The number of instances made so far. -/
  made : Nat := 0

/-- A resolver class to register, with what its instance is made from. -/
structure ResolverSource where
  className : String
  implementation : String
  label : String

namespace Builder

def new (registry : Registry) (settings : Settings) : Builder := { registry, settings }

def blueprint (b : Builder) : Blueprint :=
  ⟨⟨b.registry, b.settings.inputPrefix⟩, b.settings.contextTypeName⟩

def compiler (b : Builder) : Compiler := b.blueprint.compiler

/-! ## Registration -/

/-- Compiles both types of an entity class; a class that is no entity is passed over. -/
def registerModel (b : Builder) (className : String) : Logged Builder := do
  let (output, store) ← b.compiler.compileOutput className b.store
  match output with
  | none => pure { b with store }
  | some _ =>
    let (_, store) ← b.compiler.compileInput className store
    pure { b with store, models := b.models ++ [className] }

def registerModels : Builder → List String → Logged Builder
  | b, [] => pure b
  | b, c :: cs => do
    let b ← b.registerModel c
    registerModels b cs

def registerResolver (b : Builder) (s : ResolverSource) : Builder :=
  { b with
    resolvers := b.resolvers ++ [⟨b.made, s.className, s.implementation, s.label⟩]
    made := b.made + 1 }

def registerResolvers (b : Builder) (sources : List ResolverSource) : Builder := sources.foldl registerResolver b

/-- The compiled output type of a class that was registered or referred to. -/
def outputType (b : Builder) (className : String) : Except GraphError CompiledType :=
  match b.compiler.lookup? b.store className .output with
  | some t => .ok t
  | none => .error (.unknownModel className)

/-! ## Builds -/

/-- Prepares the waiting instances and gathers all types. The builder that is left has no instances. -/
def assemble (b : Builder) : Logged (Assembly × Builder) := do
  let (prepared, store) ← b.blueprint.prepareResolvers b.resolvers b.store
  let roots ← Roots.ofResolvers prepared
  let types ← store.schemaTypes
  pure (⟨roots, types⟩, { b with store, resolvers := [] })

/-- Makes a schema of what is registered. The instances are taken whether or not there is a schema; the types stay. -/
def build (b : Builder) : Logged (Except BuildFailure Schema × Builder) := do
  let (assembly, b') ← b.assemble
  pure (assembly.toSchema b.settings, b')

end Builder

end EntityGraph
