import EntityGraph.Schema.Catalog
import EntityGraph.Schema.Refusal
/-!
# Which types a schema shows

Clients are told of the scalars, of the types with a reserved name, and of those that the roots lead to by the types of
fields and of arguments. A type that was registered and that nothing leads to is hidden from them. A reserved name
shows a type, but not what it leads to.
-/

namespace EntityGraph.Catalog

/-- The shown types, sorted by name. -/
def shown (c : Catalog) (roots : List String) : List String :=
  let reached := c.reached roots
  let visible := c.keys.filter fun name =>
    (Scalar.ofSchemaName? name).isSome || isReserved name || reached.contains name
  visible.mergeSort fun s t => !decide (t < s)

end EntityGraph.Catalog
