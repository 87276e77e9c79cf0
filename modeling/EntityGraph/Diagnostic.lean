import EntityGraph.Scalar
import EntityGraph.Text.Quoted
/-!
# Diagnostics

What goes wrong without stopping anything is noted as a `Diagnostic`, named for its cause. `Logged` is a result
together with what was noted on the way to it, in order.
-/

namespace EntityGraph

inductive Diagnostic
  /-- A foreign key is left out of a type because its target is no entity. -/
  | foreignKeyOmitted (className field target : String)
  /-- A relation names a type that was never finished. -/
  | unfinishedTarget (typeName field : String)
  | noMethods (className : String)
  | noReturnType (className method : String)
  | unknownReturnType (className method : String) (returns : TypeRef)
  | noHandler (className method : String)
  | unknownParameterType (className method parameter : String) (type : TypeRef)
  | duplicateRootField (root field : String)
  /-- A foreign key cannot be resolved because its target has nothing to be identified by. -/
  | targetWithoutPrimaryKey (target field : String)
  /-- A foreign key cannot be resolved because no id was supplied for it. -/
  | idNotFound (target field : String) (idColumn : Option String)
deriving DecidableEq

namespace Diagnostic

inductive Level
  | warn
  | error
deriving DecidableEq

def Level.name : Level → String
  | .warn => "warn"
  | .error => "error"

def level : Diagnostic → Level
  | .targetWithoutPrimaryKey _ _ => .error
  | .idNotFound _ _ _ => .error
  | _ => .warn

def message : Diagnostic → String
  | .foreignKeyOmitted _ _ _ => "Foreign key target is not a declared entity, omitting field"
  | .unfinishedTarget _ _ => "Relation target never finished compiling"
  | .noMethods _ => "Resolver class has no declared methods"
  | .noReturnType _ _ => "No return type declared, skipping field"
  | .unknownReturnType _ _ _ => "Return type is neither a scalar nor an entity, skipping field"
  | .noHandler _ _ => "No handler bound, skipping field"
  | .unknownParameterType _ _ _ _ => "Parameter type is neither a scalar nor an entity, passing null"
  | .duplicateRootField _ _ => "Duplicate root field, later declaration wins"
  | .targetWithoutPrimaryKey _ _ => "Foreign key target has no primary key"
  | .idNotFound _ _ _ => "Unable to resolve foreign key: no id in flat or nested form"

def describeIdColumn : Option String → String
  | some column => "Some(" ++ Text.quoted column ++ ")"
  | none => "None"

/-- What the diagnostic is about, by name. -/
def fields : Diagnostic → List (String × String)
  | .foreignKeyOmitted c f t => [("class", c), ("field", f), ("target_class", t)]
  | .unfinishedTarget t f => [("type_name", t), ("field", f)]
  | .noMethods c => [("class", c)]
  | .noReturnType c m => [("class", c), ("method", m)]
  | .unknownReturnType c m t => [("class", c), ("method", m), ("returns", t.toText)]
  | .noHandler c m => [("class", c), ("method", m)]
  | .unknownParameterType c m p t => [("class", c), ("method", m), ("param", p), ("ty", t.toText)]
  | .duplicateRootField root f => [("root", root), ("field", f)]
  | .targetWithoutPrimaryKey t f => [("target_class", t), ("field", f)]
  | .idNotFound t f col => [("target_class", t), ("field", f), ("id_column", describeIdColumn col)]

end Diagnostic

/-! ## Results with notes -/

structure Logged (α : Type) where
  value : α
  log : List Diagnostic := []

namespace Logged

variable {α β : Type}

protected def pure (a : α) : Logged α := ⟨a, []⟩

protected def bind (x : Logged α) (f : α → Logged β) : Logged β :=
  ⟨(f x.value).value, x.log ++ (f x.value).log⟩

instance : Monad Logged where
  pure := Logged.pure
  bind := Logged.bind

/-- Gives `a`, noting one diagnostic. -/
def noting (a : α) (d : Diagnostic) : Logged α := ⟨a, [d]⟩

/-- Does `f` to every item in turn. -/
def each (f : α → Logged β) (items : List α) : Logged (List β) :=
  ⟨items.map fun a => (f a).value, items.flatMap fun a => (f a).log⟩

@[simp] theorem value_pure (a : α) : (pure a : Logged α).value = a := rfl

@[simp] theorem log_pure (a : α) : (pure a : Logged α).log = [] := rfl

@[simp] theorem value_bind (x : Logged α) (f : α → Logged β) : (x >>= f).value = (f x.value).value := rfl

@[simp] theorem log_bind (x : Logged α) (f : α → Logged β) : (x >>= f).log = x.log ++ (f x.value).log := rfl

end Logged

end EntityGraph
