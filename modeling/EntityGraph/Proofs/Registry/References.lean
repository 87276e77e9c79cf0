import EntityGraph.Registry.Basic
import EntityGraph.Text.Casing
import Mathlib.Logic.Relation
/-!
# References between entities

The entities of a registry and the foreign keys that lead from one to another. Two conditions that declarations may
or may not meet are decidable, as only classes that are mentioned count: that every foreign key leads to an entity
(`TargetsDeclared`), and that no two entities have the same name in lower case (`NamesDistinct`).
-/

namespace EntityGraph

/-- The class a foreign key leads to. -/
def FieldKind.target? : FieldKind → Option String
  | .primaryKey _ => none
  | .column _ => none
  | .foreignKey target _ => some target

namespace Registry

variable {r : Registry} {className : String}

def IsEntity (r : Registry) (className : String) : Prop := (r.entityName? className).isSome = true

instance (r : Registry) (className : String) : Decidable (r.IsEntity className) :=
  inferInstanceAs (Decidable (_ = true))

/-- An entity has a foreign key to another. -/
def Refers (r : Registry) (a b : String) : Prop :=
  r.IsEntity b ∧ ∃ m, r.model? a = some m ∧ m.isEntity = true ∧ ∃ f ∈ m.fields, f.kind.target? = some b

/-- Zero or more foreign keys lead from one class to another. -/
def Reaches (r : Registry) : String → String → Prop := Relation.ReflTransGen r.Refers

/-! ## Names -/

/-- No two entities have the same name in lower case. -/
def NamesDistinct (r : Registry) : Prop :=
  ∀ a b x y, r.entityName? a = some x → r.entityName? b = some y → Text.lowercase x = Text.lowercase y → a = b

theorem mem_keys_of_entityName? {entity : String} (h : r.entityName? className = some entity) :
    className ∈ r.models.keys := by
  obtain ⟨m, hm, _⟩ := Option.bind_eq_some_iff.1 h
  exact Dict.mem_keys_of_get? hm

instance (r : Registry) : Decidable r.NamesDistinct :=
  decidable_of_iff (∀ a ∈ r.models.keys, ∀ b ∈ r.models.keys,
      (r.entityName? a).isSome = true → (r.entityName? a).map Text.lowercase = (r.entityName? b).map Text.lowercase →
        a = b) <| by
    constructor
    · intro h a b x y ha hb hxy
      exact h a (mem_keys_of_entityName? ha) b (mem_keys_of_entityName? hb) (by rw [ha]; rfl)
        (by rw [ha, hb, Option.map_some, Option.map_some, hxy])
    · intro h a _ b _ ha hab
      obtain ⟨x, hx⟩ := Option.isSome_iff_exists.1 ha
      rw [hx, Option.map_some] at hab
      obtain ⟨y, hy, hxy⟩ := Option.map_eq_some_iff.1 hab.symm
      exact h a b x y hx hy hxy.symm

/-! ## Targets -/

/-- Every foreign key leads to an entity. -/
def TargetsDeclared (r : Registry) : Prop :=
  ∀ className m, r.model? className = some m → ∀ f ∈ m.fields, ∀ target, f.kind.target? = some target →
    r.IsEntity target

instance (r : Registry) : Decidable r.TargetsDeclared :=
  decidable_of_iff (∀ className ∈ r.models.keys, ∀ m ∈ (r.model? className).toList, ∀ f ∈ m.fields,
      ∀ target ∈ f.kind.target?.toList, r.IsEntity target) <| by
    constructor
    · intro h className m hm f hf target ht
      exact h className (Dict.mem_keys_of_get? hm) m (Option.mem_toList.2 hm) f hf target (Option.mem_toList.2 ht)
    · intro h className _ m hm f hf target ht
      exact h className m (Option.mem_toList.1 hm) f hf target (Option.mem_toList.1 ht)

end Registry

end EntityGraph
