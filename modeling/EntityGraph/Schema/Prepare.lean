import EntityGraph.Config
import EntityGraph.Root
import EntityGraph.Types.Compile
/-!
# Preparing the root fields of a resolver class

Each method of a class becomes a root field if its kind, its return type and its handler are known; the types it
mentions are compiled on the way. What is missing leaves the field out and is noted, except for a method without a
kind, which was never meant to be exposed.

A parameter whose declared type is the context's stands for the request context and is passed by. Any other parameter
keeps its place among the arguments; one whose type is unknown is not offered to clients and is always null.
-/

namespace EntityGraph

/-- Work on the compiled types, with notes. -/
abbrev Building := StateT TypeStore Logged

def Building.note (d : Diagnostic) : Building Unit := fun s => ⟨((), s), [d]⟩

/-- Settings and declarations from which a schema is made. -/
structure Blueprint where
  compiler : Compiler
  contextTypeName : String

namespace Blueprint

def registry (b : Blueprint) : Registry := b.compiler.registry

/-! ## Types -/

/-- The schema's name for a return type, if it is a scalar or an entity. -/
def returnType? (b : Blueprint) (t : TypeRef) : Building (Option TypeRef) :=
  match t.scalar? with
  | some s => pure (some (t.withName s.name))
  | none =>
    match b.registry.findModel? t.name with
    | none => pure none
    | some m => do
      let compiled ← b.compiler.compileOutput m.className
      pure (compiled.map fun type => t.withName type.name)

/-- The class that a parameter's type names, with its input type, if it is an entity. -/
def inputType? (b : Blueprint) (name : String) : Building (Option (String × CompiledType)) :=
  match b.registry.findModel? name with
  | none => pure none
  | some m => do
    let compiled ← b.compiler.compileInput m.className
    pure (compiled.map fun type => (m.className, type))

/-! ## Parameters -/

/-- A parameter's plan, and the argument that clients may supply for it. -/
structure PreparedParameter where
  plan : ParameterPlan
  argument : Option (String × TypeRef)

def isContext (b : Blueprint) (p : Parameter) : Bool := Text.equalsIgnoringCase p.type.name b.contextTypeName

/-- Prepares the parameter `p` of the effective type `t`. -/
def prepareParameter (b : Blueprint) (className : String) (m : Method) (p : Parameter) (t : TypeRef) :
    Building PreparedParameter :=
  match t.scalar? with
  | some s => pure ⟨⟨p.name, .scalar⟩, some (p.name, t.withName s.name)⟩
  | none => do
    match ← b.inputType? t.name with
    | some (target, input) => pure ⟨⟨p.name, .model target t.list⟩, some (p.name, t.withName input.name)⟩
    | none =>
      Building.note (.unknownParameterType className m.name p.name t)
      pure ⟨⟨p.name, .unknown⟩, none⟩

/-- Prepares the parameters that stand at `position` and after. -/
def prepareParameters (b : Blueprint) (className : String) (m : Method) :
    Nat → List Parameter → Building (List PreparedParameter)
  | _, [] => pure []
  | position, p :: ps =>
    if b.isContext p then prepareParameters b className m (position + 1) ps
    else do
      let prepared ← b.prepareParameter className m p ((m.parameterType? position).getD p.type)
      let rest ← prepareParameters b className m (position + 1) ps
      pure (prepared :: rest)

/-! ## Methods -/

def prepareMethod (b : Blueprint) (i : ResolverInstance) (m : Method) : Building (Option RootField) :=
  match m.kind with
  | none => pure none
  | some kind =>
    match m.returns with
    | none => do
      Building.note (.noReturnType i.className m.name)
      pure none
    | some returns => do
      match ← b.returnType? returns with
      | none =>
        Building.note (.unknownReturnType i.className m.name returns)
        pure none
      | some type =>
        match m.handler with
        | none =>
          Building.note (.noHandler i.className m.name)
          pure none
        | some handler => do
          let parameters ← b.prepareParameters i.className m 0 m.parameters
          pure (some {
            kind
            name := m.exposedName
            returns := type
            arguments := parameters.filterMap (·.argument)
            plan := ⟨i.className, m.name, parameters.map (·.plan), m.guards, handler, i⟩ })

def prepareMethods (b : Blueprint) (i : ResolverInstance) : List Method → Building (List RootField)
  | [] => pure []
  | m :: ms => do
    let field ← b.prepareMethod i m
    let rest ← prepareMethods b i ms
    pure (field.toList ++ rest)

def prepareResolver (b : Blueprint) (i : ResolverInstance) : Building (List RootField) :=
  match b.registry.resolver? i.className with
  | none => do
    Building.note (.noMethods i.className)
    pure []
  | some c => b.prepareMethods i c.methods.values

def prepareResolvers (b : Blueprint) : List ResolverInstance → Building (List (List RootField))
  | [] => pure []
  | i :: is => do
    let fields ← b.prepareResolver i
    let rest ← prepareResolvers b is
    pure (fields :: rest)

end Blueprint

end EntityGraph
