import EntityGraph.ForeignKey
import EntityGraph.Registry.Declaration
/-!
# Where the id of a foreign key is found

A parent may hold the id of a related instance in three places: under the flat key, and in a nested object under the
name or the wire name of the target's primary key. Only what is there and not null is an id, and the first one makes
the stub (`resolveForeignKey_eq_some_iff`).

There is one exception. In a nested object the name is read first, and the wire name only if nothing is there; whether
the value is null is asked last. So a null under the name hides an id under the wire name (`id_behind_null`).
-/

namespace EntityGraph

namespace Registry

variable {r : Registry} {pk : Field} {parent nested id : Value} {target fieldKey : String}
  {idColumn : Option String}

/-- The first id in the three places. -/
def firstId? (pk : Field) (parent : Value) (fieldKey : String) (idColumn : Option String) : Option Value :=
  let nested := parent.get? fieldKey
  (idColumn.bind parent.present?).or
    ((nested.bind (·.present? pk.name)).or (nested.bind (·.present? pk.wireName)))

/-- The first id is under the wire name of the primary key, and there is a null under its name. -/
structure IdHidden (pk : Field) (parent : Value) (fieldKey : String) (idColumn : Option String) : Prop where
  flat : idColumn.bind parent.present? = none
  name : (parent.get? fieldKey).bind (·.get? pk.name) = some .null
  wireName : ((parent.get? fieldKey).bind (·.present? pk.wireName)).isSome = true

/-! ## Nested ids -/

theorem nestedId?_of_absent (h : nested.get? pk.name = none) : nestedId? pk nested = nested.present? pk.wireName := by
  unfold nestedId?
  rw [h]
  rfl

theorem nestedId?_of_null (h : nested.get? pk.name = some .null) : nestedId? pk nested = none := by
  unfold nestedId?
  rw [h]
  rfl

theorem nestedId?_of_present? (h : nested.present? pk.name = some id) : nestedId? pk nested = some id := by
  obtain ⟨hget, hid⟩ := Value.present?_eq_some_iff.1 h
  unfold nestedId?
  rw [hget, Option.filter_eq_some_iff]
  exact ⟨rfl, by rw [hid]; rfl⟩

/-- **The nested id is the first that is there**, unless a null under the name hides it. -/
theorem nestedId?_eq_some_iff : nestedId? pk nested = some id ↔
    (nested.present? pk.name).or (nested.present? pk.wireName) = some id ∧
      ¬ (nested.get? pk.name = some .null ∧ (nested.present? pk.wireName).isSome = true) := by
  cases hp : nested.present? pk.name with
  | some v =>
    obtain ⟨hget, hv⟩ := Value.present?_eq_some_iff.1 hp
    have hnull : nested.get? pk.name ≠ some .null := by
      rw [hget]
      rintro ⟨⟩
      cases hv
    rw [nestedId?_of_present? hp, Option.some_or]
    exact ⟨fun h => ⟨h, fun hhidden => hnull hhidden.1⟩, And.left⟩
  | none =>
    rw [Option.none_or]
    cases hget : nested.get? pk.name with
    | none =>
      rw [nestedId?_of_absent hget]
      exact ⟨fun h => ⟨h, fun hhidden => nomatch hhidden.1⟩, And.left⟩
    | some v =>
      obtain rfl := Value.eq_null_of_present?_eq_none hp hget
      rw [nestedId?_of_null hget]
      constructor
      · rintro ⟨⟩
      · rintro ⟨hid, hshown⟩
        exact absurd ⟨rfl, by rw [hid]; rfl⟩ hshown

/-! ## All three places -/

theorem foreignId?_eq_some_iff : foreignId? pk parent fieldKey idColumn = some id ↔
    firstId? pk parent fieldKey idColumn = some id ∧ ¬ IdHidden pk parent fieldKey idColumn := by
  unfold foreignId? firstId?
  cases hflat : idColumn.bind parent.present? with
  | some v => exact ⟨fun h => ⟨h, fun hhidden => nomatch hhidden.flat.symm.trans hflat⟩, And.left⟩
  | none =>
    have hhidden : IdHidden pk parent fieldKey idColumn ↔
        (parent.get? fieldKey).bind (·.get? pk.name) = some .null ∧
          ((parent.get? fieldKey).bind (·.present? pk.wireName)).isSome = true :=
      ⟨fun h => ⟨h.name, h.wireName⟩, fun h => ⟨hflat, h.1, h.2⟩⟩
    rw [hhidden]
    cases parent.get? fieldKey with
    | none => simp
    | some nested => exact nestedId?_eq_some_iff

theorem value_resolveForeignKey (r : Registry) (target : String) (parent : Value) (fieldKey : String)
    (idColumn : Option String) : (r.resolveForeignKey target parent fieldKey idColumn).value =
      (r.primaryKey? target).bind fun pk => (foreignId? pk parent fieldKey idColumn).map (stub target pk) := by
  unfold resolveForeignKey
  cases r.primaryKey? target with
  | none => rfl
  | some pk =>
    dsimp only [Option.bind_some]
    cases foreignId? pk parent fieldKey idColumn <;> rfl

/-- **A foreign key is resolved by the first id** in the three places, to an instance with this id and nothing else. It
is not resolved if the target has no primary key, if there is no id, or if the id is hidden. -/
theorem resolveForeignKey_eq_some_iff (r : Registry) (target : String) (parent : Value) (fieldKey : String)
    (idColumn : Option String) (i : Instance) :
    (r.resolveForeignKey target parent fieldKey idColumn).value = some i ↔
      ∃ pk id, r.primaryKey? target = some pk ∧ firstId? pk parent fieldKey idColumn = some id ∧
        ¬ IdHidden pk parent fieldKey idColumn ∧ i = ⟨target, [(pk.name, id)]⟩ := by
  rw [value_resolveForeignKey, Option.bind_eq_some_iff]
  refine exists_congr fun pk => ?_
  rw [Option.map_eq_some_iff]
  constructor
  · rintro ⟨hpk, id, hid, rfl⟩
    obtain ⟨hfirst, hshown⟩ := foreignId?_eq_some_iff.1 hid
    exact ⟨id, hpk, hfirst, hshown, rfl⟩
  · rintro ⟨id, hpk, hfirst, hshown, rfl⟩
    exact ⟨hpk, id, foreignId?_eq_some_iff.2 ⟨hfirst, hshown⟩, rfl⟩

/-- A pet is called by its key outside. -/
def keyedPetDeclarations : List Declaration :=
  [.entity "Pet" none, .field "Pet" "id" (.primaryKey .float) (some "key")]

/-- A pet that is given by its key is not found if its id is null. -/
theorem id_behind_null :
    let r := Registry.ofDeclarations keyedPetDeclarations
    let pk : Field := ⟨"id", "key", .primaryKey .float⟩
    let parent : Value := .object [("pet", .object [("id", .null), ("key", .number (.int 7))])]
    r.primaryKey? "Pet" = some pk ∧ firstId? pk parent "pet" none = some (.number (.int 7)) ∧
      (r.resolveForeignKey "Pet" parent "pet" none).value = none := by
  exact ⟨by decide, rfl, rfl⟩

end Registry

end EntityGraph
