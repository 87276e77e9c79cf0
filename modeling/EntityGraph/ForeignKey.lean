import EntityGraph.Diagnostic
import EntityGraph.Instance
import EntityGraph.Registry.Basic
import EntityGraph.Text.Casing
/-!
# Foreign keys

A related instance is given by its id. In an object the id stands either flat, under the key of the foreign key's id
column, or in a nested object, under the name or the wire name of the target's primary key. The flat form is read
first, and null counts as absent in both.

`resolveForeignKey` makes a stub of the target: an instance with the id and nothing else.
-/

namespace EntityGraph

namespace Registry

/-- The flat key of a foreign key to `target`: the name it was given, or the target's entity name in lower case
followed by its primary key with a capital. -/
def flatIdKey? (r : Registry) (target : String) : IdColumn → Option String
  | .named key => some key
  | .conventional =>
    (r.model? target).bind fun m =>
      m.primaryKey?.map fun pk => Text.lowercase (m.entity.getD target) ++ Text.capitalize pk.name

/-- The id in a nested object. A null under the key's name hides a value under its wire name. -/
def nestedId? (pk : Field) (nested : Value) : Option Value :=
  (match nested.get? pk.name with
    | some v => some v
    | none => nested.get? pk.wireName).filter (!·.isNull)

/-- The id that `parent` holds for a foreign key. -/
def foreignId? (pk : Field) (parent : Value) (fieldKey : String) (idColumn : Option String) : Option Value :=
  match idColumn.bind parent.present? with
  | some id => some id
  | none => (parent.get? fieldKey).bind (nestedId? pk)

/-- An instance known by its id only. -/
def stub (target : String) (pk : Field) (id : Value) : Instance := (Instance.empty target).set pk.name id

def resolveForeignKey (r : Registry) (target : String) (parent : Value) (fieldKey : String)
    (idColumn : Option String) : Logged (Option Instance) :=
  match r.primaryKey? target with
  | none => .noting none (.targetWithoutPrimaryKey target fieldKey)
  | some pk =>
    match foreignId? pk parent fieldKey idColumn with
    | none => .noting none (.idNotFound target fieldKey idColumn)
    | some id => pure (some (stub target pk id))

end Registry

end EntityGraph
