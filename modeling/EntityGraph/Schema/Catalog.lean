import EntityGraph.Schema.MetaTypes
import EntityGraph.Schema.Reach
import EntityGraph.Schema.Table
/-!
# The catalog of a schema

The signatures of all types by name: the scalars, the types of the table, and, if the schema describes itself, the
types of its descriptions. A type of the table takes the place of a type of descriptions with its name, and types that
only the latter leads to are then missing.
-/

namespace EntityGraph

def InputValue.ofRef (name : String) (t : TypeRef) : InputValue := ⟨name, .ofText t.toText, none⟩

def OutputField.signature (f : OutputField) : FieldSignature :=
  ⟨f.name, .ofText f.type.toText, f.arguments.entries.map fun a => .ofRef a.1 a.2⟩

def SchemaType.signature : SchemaType → TypeSignature
  | .output t => .object (t.fields.map (·.signature))
  | .input t => .input (t.fields.map fun f => .ofRef f.name f.type)

namespace Catalog

def scalars : Catalog := Scalar.all.map fun s => (s.name, .scalar s)

/-- The types of descriptions, where types of these names exist already. -/
def descriptions (taken : List String) : Catalog :=
  let free : Catalog := MetaTypes.all.filter fun entry => !taken.contains entry.1
  let reached := free.reached [MetaTypes.schemaTypeName]
  free.filter fun entry => reached.contains entry.1

/-- Gives the query root the fields that describe the schema. -/
def describing : String × TypeSignature → String × TypeSignature
  | (name, .object fields) =>
    (name, .object (if name == RootKind.query.typeName then fields ++ MetaTypes.rootFields else fields))
  | entry => entry

def ofTable (table : TypeTable) (introspection : Bool) : Catalog :=
  let own : Catalog := table.entries.map fun entry => (entry.1, entry.2.signature)
  if introspection then scalars ++ own.map describing ++ descriptions table.keys else scalars ++ own

end Catalog

end EntityGraph
