import EntityGraph.Proofs.Fill.Settings
import EntityGraph.Proofs.Types.Requests
import EntityGraph.Relation
/-!
# From a filled instance back to its stubs

A handler may return the instance that it was given. The relations of its type then look for ids in what was filled
from the request. They find in each foreign key the id that the handler saw there, unless the instance has a value
under the flat key too: that is read first (`resolveForeignKey_of_nested`). Filling assigns only what the model
declares, so this takes a field with the name of the flat key (`resolve_filled`).

The two readers look in different places. Filling prefers the nested object and reads wire names; resolving prefers
the flat key and reads field names. So a request that gives both ids is filled with the one and resolved to the other
(`resolve_declared_flat_key`).
-/

namespace EntityGraph

namespace Registry

variable {r : Registry} {className target fieldKey : String} {m : Model} {pk : Field} {parent nested v : Value}
  {i : Instance} {key : Option String}

/-! ## Reading an id -/

/-- **The id under the flat key comes before the nested one.** -/
theorem resolveForeignKey_of_nested (hpk : r.primaryKey? target = some pk) (hget : parent.get? fieldKey = some nested)
    (hv : nested.present? pk.name = some v) : r.resolveForeignKey target parent fieldKey key =
      pure (some (stub target pk ((key.bind parent.present?).getD v))) := by
  have hid : foreignId? pk parent fieldKey key = some ((key.bind parent.present?).getD v) := by
    unfold foreignId?
    cases key.bind parent.present? with
    | some u => rfl
    | none =>
      rw [hget]
      exact nestedId?_of_present? hv
  unfold resolveForeignKey
  rw [hpk]
  dsimp only
  rw [hid]

/-! ## What an instance was filled with -/

/-- What is assigned in a filled instance is a field of the model. -/
theorem mem_names_of_fill (hd : r.FieldsDistinct) (hm : r.model? className = some m) {raw : Option Value}
    (hfill : (r.fill raw (some className)).value = some i) {name : String} {u : Value}
    (hu : i.toValue.present? name = some u) : name ∈ m.fields.map (·.name) := by
  cases raw with
  | none => cases hfill
  | some raw =>
    have hraw : raw.isNull = false := by
      cases raw with
      | null =>
        unfold fill fillValue at hfill
        cases hfill
      | _ => rfl
    have hi := (fillValue_value hd hraw hm).symm.trans hfill
    cases hi
    have hmem := Entries.mem_keys_of_get? (Value.present?_eq_some_iff.1 hu).1
    rw [keys_settings] at hmem
    exact (List.filter_sublist.map _).subset hmem

end Registry

namespace Compiler

variable {c : Compiler} {s : TypeStore} {flavor : Flavor} {m : Model} {link : String → Option Nat} {f : Field}
  {target : String} {idColumn : Option IdColumn}

/-! ## The relation of a foreign key -/

theorem relation_mem_fieldLayout (hk : f.kind = .foreignKey target idColumn) {handle : Nat}
    (hl : link target = some handle) (done : List CompiledField) :
    ⟨f.wireName, f.name, .relation handle ⟨target, f.name, idColumn.bind (c.registry.flatIdKey? target)⟩⟩ ∈
      c.fieldLayout flavor m link done f := by
  unfold fieldLayout relationFields
  rw [hk]
  dsimp only
  rw [hl]
  dsimp only
  split <;> exact List.mem_cons_self

/-- **A foreign key to an entity is a relation of every type that is compiled from its model.** -/
theorem Settled.exists_relation (h : c.Settled s) {type : CompiledType} (ht : type ∈ s.types)
    (hm : c.registry.model? type.className = some m) (hf : f ∈ m.fields)
    (hk : f.kind = .foreignKey target idColumn) (he : c.registry.IsEntity target) :
    ∃ handle, ⟨f.wireName, f.name,
      .relation handle ⟨target, f.name, idColumn.bind (c.registry.flatIdKey? target)⟩⟩ ∈ type.fields := by
  obtain ⟨i, hi⟩ := TypeStore.mem_types_iff.1 ht
  obtain ⟨_, m', entity, hmade⟩ := h.filled_of_get? hi
  have hmm : m' = m := Option.some.inj (hmade.model.symm.trans hm)
  subst hmm
  have hlink : (c.link? s type.flavor target).isSome = true := by
    rw [hmade.linked f hf target (by rw [hk]; rfl), isSome_key?]
    exact he
  obtain ⟨handle, hl⟩ := Option.isSome_iff_exists.1 hlink
  obtain ⟨g, hg, rfl⟩ := mem_layout_of_mem_fieldLayout (c := c) (m := m') (p := fun g => g = ⟨f.wireName, f.name,
      .relation handle ⟨target, f.name, idColumn.bind (c.registry.flatIdKey? target)⟩⟩)
    (fun done => ⟨_, List.mem_append_right _ (relation_mem_fieldLayout hk hl done), rfl⟩) m'.fields [] hf
  exact ⟨handle, by rw [hmade.fields]; exact hg⟩

/-! ## Filling and resolving -/

/-- **What a handler was given as a related instance is what its relation resolves to.** If a foreign key was filled
with an object that has an id, then the relation of the compiled type makes a stub with this id of the filled
instance, or with the value that the instance itself has under the flat key. It has none there unless its model
declares a field of that name. -/
theorem resolve_filled (c : Compiler) (declarations : List Declaration)
    (hc : c.registry = .ofDeclarations declarations) {className target : String} {m : Model} {f pk : Field}
    {idColumn : Option IdColumn} {raw : Option Value} {i : Instance} {nested v : Value}
    (hm : c.registry.model? className = some m) (hf : f ∈ m.fields) (hk : f.kind = .foreignKey target idColumn)
    (hpk : c.registry.primaryKey? target = some pk)
    (hfill : (c.registry.fill raw (some className)).value = some i) (hget : i.get? f.name = some nested)
    (hv : nested.present? pk.name = some v) :
    let key := idColumn.bind (c.registry.flatIdKey? target)
    let id := (key.bind i.toValue.present?).getD v
    let stub := Registry.stub target pk id
    c.registry.resolveForeignKey target i.toValue f.name key = pure (some stub) ∧
    ((∀ g ∈ m.fields, key ≠ some g.name) → id = v) ∧
    ∀ requests, ∀ type ∈ (c.storeAfter requests).types, type.className = className → c.registry.IsEntity target →
      ∃ handle relation, ⟨f.wireName, f.name, .relation handle relation⟩ ∈ type.fields ∧ relation.target = target ∧
        ∀ foreign, relation.resolve c.registry foreign i.toValue =
          pure ⟨(foreign stub).map Instance.toValue, some stub⟩ := by
  intro key id stub
  have hd : c.registry.FieldsDistinct := by
    rw [hc]
    exact Registry.fieldsDistinct_ofDeclarations declarations
  have hresolve : c.registry.resolveForeignKey target i.toValue f.name key = pure (some stub) :=
    Registry.resolveForeignKey_of_nested hpk hget hv
  refine ⟨hresolve, fun hfree => ?_, fun requests type ht hclass he => ?_⟩
  -- a filled instance has nothing set but declared fields
  · have hnone : key.bind i.toValue.present? = none := by
      rw [Option.bind_eq_none_iff]
      intro name hname
      cases hu : i.toValue.present? name with
      | none => rfl
      | some u =>
        obtain ⟨g, hg, rfl⟩ := List.mem_map.1 (Registry.mem_names_of_fill hd hm hfill hu)
        exact absurd hname (hfree g hg)
    change (key.bind i.toValue.present?).getD v = v
    rw [hnone]
    rfl
  · subst hclass
    obtain ⟨handle, hrelation⟩ := (settled_storeAfter c requests).exists_relation ht hm hf hk he
    refine ⟨handle, _, hrelation, rfl, fun foreign => ?_⟩
    unfold Relation.resolve
    change (c.registry.resolveForeignKey target i.toValue f.name key >>= _) = _
    rw [hresolve]
    rfl

/-- The foreign key of a person to a pet. -/
def petField : Field := ⟨"pet", "pet", .foreignKey "Pet" (some .conventional)⟩

/-- A person whose pet is given by a nested object. -/
theorem nested_pet_resolved :
    let r := petCompiler.registry
    let raw : Value := .object [("pet", .object [("id", .number (.int 7))])]
    let pet : Value := .object [("id", .number (.int 7)), ("owner", .null), ("parent", .null)]
    let i : Instance := ⟨"Person", [("pet", pet)]⟩
    ∃ m pk, r.model? "Person" = some m ∧ petField ∈ m.fields ∧ r.primaryKey? "Pet" = some pk ∧
      (r.fill (some raw) (some "Person")).value = some i ∧ i.get? "pet" = some pet ∧
      pet.present? pk.name = some (.number (.int 7)) ∧
      r.resolveForeignKey "Pet" i.toValue "pet" (some "petId") = pure (some ⟨"Pet", [("id", .number (.int 7))]⟩) := by
  intro r raw pet i
  obtain ⟨m, hm, hf⟩ : ∃ m, r.model? "Person" = some m ∧ petField ∈ m.fields := ⟨_, rfl, by decide⟩
  have hpk : r.primaryKey? "Pet" = some ⟨"id", "id", .primaryKey .float⟩ := by decide
  have hfill : (r.fill (some raw) (some "Person")).value = some i := by rfl
  exact ⟨m, _, hm, hf, hpk, hfill, rfl, rfl,
    (resolve_filled petCompiler petDeclarations rfl hm hf rfl hpk hfill rfl rfl).1⟩

end Compiler

/-! ## Where the two readers differ -/

namespace Registry

/-- The flat key of a person's pet is a column as well. -/
def petIdDeclarations : List Declaration := petDeclarations ++ [.field "Person" "petId" (.column .float) none]

/-- Of a person given with a pet and with the id of another pet, the handler sees the one and the relation resolves to
the other. -/
theorem resolve_declared_flat_key :
    let r := Registry.ofDeclarations petIdDeclarations
    let raw : Value := .object [("pet", .object [("id", .number (.int 7))]), ("petId", .number (.int 9))]
    let pet : Value := .object [("id", .number (.int 7)), ("owner", .null), ("parent", .null)]
    let i : Instance := ⟨"Person", [("pet", pet), ("petId", .number (.int 9))]⟩
    (∃ m, r.model? "Person" = some m ∧ Compiler.petField ∈ m.fields) ∧
      r.primaryKey? "Pet" = some ⟨"id", "id", .primaryKey .float⟩ ∧
      r.flatIdKey? "Pet" .conventional = some "petId" ∧
      (r.fill (some raw) (some "Person")).value = some i ∧
      i.get? "pet" = some pet ∧ pet.present? "id" = some (.number (.int 7)) ∧
      r.resolveForeignKey "Pet" i.toValue "pet" (some "petId") =
        pure (some ⟨"Pet", [("id", .number (.int 9))]⟩) ∧
      (r.resolveForeignKey "Pet" i.toValue "pet" (some "petId")).value ≠
        some ⟨"Pet", [("id", .number (.int 7))]⟩ := by
  intro r raw pet i
  have hresolve : r.resolveForeignKey "Pet" i.toValue "pet" (some "petId") =
      pure (some ⟨"Pet", [("id", .number (.int 9))]⟩) := by rfl
  refine ⟨⟨_, rfl, ?_⟩, rfl, rfl, rfl, rfl, rfl, hresolve, ?_⟩
  · decide
  · rw [hresolve]
    exact fun h => nomatch h

end Registry

end EntityGraph
