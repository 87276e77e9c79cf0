import EntityGraph.ForeignKey
import EntityGraph.Types.Basic
/-!
# Compiling entities into types

A class is compiled together with every entity that its foreign keys reach. Entities are told apart by their names in
lower case, and each is compiled once per flavor: a second visit, also one while the type is still being made, gives
the handle of the first. A foreign key whose target is no entity is left out and noted.

An input type has, beside each relation, the flat key by which an id may be supplied, unless the name is taken.

`compileAt` is bounded by a number of nested visits. Every visit that opens a slot takes an entity name that had none,
so one more than the number of models is always enough, and `compile` asks for no bound.
-/

namespace EntityGraph

/-- What compilation reads: the declarations, and what the names of input types begin with. -/
structure Compiler where
  registry : Registry
  inputPrefix : String

/-- A compilation under way. -/
structure Pass where
  store : TypeStore
  log : List Diagnostic

def Pass.note (p : Pass) (d : Diagnostic) : Pass := { p with log := p.log ++ [d] }

namespace Compiler

/-- The name by which a class's types are remembered. -/
def key? (c : Compiler) (className : String) : Option String :=
  (c.registry.entityName? className).map Text.lowercase

def typeName (c : Compiler) (flavor : Flavor) (entity : String) : String :=
  match flavor with
  | .output => entity
  | .input => c.inputPrefix ++ entity

/-! ## Fields -/

/-- The scalar field for the flat key of a foreign key to `target`, unless a field declared on the model or one
already compiled has that name, or the target has no primary key. -/
def flatField? (c : Compiler) (m : Model) (done : List CompiledField) (target key : String) : Option CompiledField :=
  if m.fields.any (·.wireName == key) || done.any (·.name == key) then none
  else ((c.registry.primaryKey? target).bind (·.kind.scalar?)).map fun s => ⟨key, key, .scalar s⟩

/-- The fields that a foreign key to a compiled target adds to those that are `done`. -/
def relationFields (c : Compiler) (flavor : Flavor) (m : Model) (done : List CompiledField) (f : Field)
    (target : String) (idColumn : Option IdColumn) (handle : Nat) : List CompiledField :=
  let key := idColumn.bind (c.registry.flatIdKey? target)
  let relation : CompiledField := ⟨f.wireName, f.name, .relation handle ⟨target, f.name, key⟩⟩
  match flavor, key with
  | .input, some key => relation :: (c.flatField? m (done ++ [relation]) target key).toList
  | _, _ => [relation]

/-- Compiles the fields of a model in order of declaration, visiting the targets of its foreign keys. -/
def compileFields (c : Compiler) (flavor : Flavor) (className : String) (m : Model)
    (visit : String → Pass → Option (Option Nat × Pass)) :
    List Field → List CompiledField → Pass → Option (List CompiledField × Pass)
  | [], done, p => some (done, p)
  | f :: fs, done, p =>
    match f.kind with
    | .primaryKey s => c.compileFields flavor className m visit fs (done ++ [⟨f.wireName, f.name, .scalar s⟩]) p
    | .column s => c.compileFields flavor className m visit fs (done ++ [⟨f.wireName, f.name, .scalar s⟩]) p
    | .foreignKey target idColumn =>
      match visit target p with
      | none => none
      | some (none, p) =>
        c.compileFields flavor className m visit fs done (p.note (.foreignKeyOmitted className f.name target))
      | some (some handle, p) =>
        c.compileFields flavor className m visit fs (done ++ c.relationFields flavor m done f target idColumn handle) p

/-! ## Types -/

/-- Visits a class in a compilation, making the nested visits by `visit`. The handle is missing if the class is no
entity. There is no result if a nested visit has none. -/
def visitBy (c : Compiler) (flavor : Flavor) (visit : String → Pass → Option (Option Nat × Pass))
    (className : String) (p : Pass) : Option (Option Nat × Pass) :=
  match c.registry.model? className with
  | none => some (none, p)
  | some m =>
    match m.entity with
    | none => some (none, p)
    | some entity =>
      match (p.store.handles flavor).get? (Text.lowercase entity) with
      | some handle => some (some handle, p)
      | none =>
        let handle := p.store.size
        match c.compileFields flavor className m visit m.fields []
            { p with store := p.store.reserve flavor (Text.lowercase entity) } with
        | none => none
        | some (fields, p) =>
          some (some handle,
            { p with store := p.store.finish ⟨handle, c.typeName flavor entity, className, flavor, fields⟩ })

/-- Compiles a class with at most `bound` visits, one nested in the other, or gives nothing if they do not suffice. -/
def compileAt (c : Compiler) (flavor : Flavor) : Nat → String → Pass → Option (Option Nat × Pass)
  | 0, _, _ => none
  | bound + 1, className, p => c.visitBy flavor (c.compileAt flavor bound) className p

/-- The number of nested visits that always suffices. -/
def bound (c : Compiler) : Nat := c.registry.models.size + 1

/-- Compiles a class unless that was done before. Gives its handle, or none if it is no entity. -/
def compile (c : Compiler) (flavor : Flavor) (className : String) (s : TypeStore) : Logged (Option Nat × TypeStore) :=
  match c.compileAt flavor c.bound className ⟨s, []⟩ with
  | some (handle, p) => ⟨(handle, p.store), p.log⟩
  | none => pure (none, s)

/-- The compiled type of a class, compiling it first if need be. -/
def compileType (c : Compiler) (flavor : Flavor) (className : String) :
    StateT TypeStore Logged (Option CompiledType) := do
  let handle ← c.compile flavor className
  let s ← get
  pure (handle.bind s.get?)

def compileOutput (c : Compiler) (className : String) : StateT TypeStore Logged (Option CompiledType) :=
  c.compileType .output className

def compileInput (c : Compiler) (className : String) : StateT TypeStore Logged (Option CompiledType) :=
  c.compileType .input className

/-- The compiled type of a class, if it has been compiled. -/
def lookup? (c : Compiler) (s : TypeStore) (className : String) (flavor : Flavor) : Option CompiledType :=
  ((c.key? className).bind (s.handles flavor).get?).bind s.get?

end Compiler

end EntityGraph
