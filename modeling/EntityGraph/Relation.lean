import EntityGraph.ForeignKey
import EntityGraph.Types.Basic
/-!
# Reading the fields of a parent

A scalar field is read from its parent value under the field's key, or else under its name in the schema. A relation
makes a stub of the related instance and asks the application to complete it; without an id there is no stub, the
application is not asked, and the field is null.
-/

namespace EntityGraph

/-- Completes a stub into an instance, or knows of none. -/
abbrev ForeignResolver := Instance → Option Instance

def CompiledField.read? (f : CompiledField) (parent : Value) : Option Value :=
  match parent.get? f.key with
  | some v => some v
  | none => parent.get? f.name

/-- The value of a relation, with the stub that was handed to the application. -/
structure RelationResult where
  value : Option Value
  stub : Option Instance

def Relation.resolve (registry : Registry) (foreign : ForeignResolver) (relation : Relation) (parent : Value) :
    Logged RelationResult := do
  let stub ← registry.resolveForeignKey relation.target parent relation.fieldKey relation.idColumn
  pure ⟨(stub.bind foreign).map Instance.toValue, stub⟩

end EntityGraph
