import EntityGraph.Proofs.Fill.InputType
import EntityGraph.Proofs.Fill.RoundTrip
import EntityGraph.Proofs.Types.FieldList
import EntityGraph.Request.Validity
/-!
# Fields for flat ids

An input type is to offer the flat key of a relation as a scalar field, so that an id alone may be sent. The field is
left out when the model declares its name elsewhere. If that is a column, then the key has a scalar field all the
same, and if another relation had the key first, its field serves both. A foreign key is different: a relation that is
called like the key keeps the name, and nothing scalar is offered under it. As nothing else stands in the way, this is
the only case (`flat_id_offered`).

What is offered is also taken: in every schema an id may be sent under the key, and it makes no difference to whether
what else is sent is accepted (`exists_takesScalar`).
-/

namespace EntityGraph

/-- Under this name the type has a scalar field. -/
def CompiledType.HasScalar (t : CompiledType) (name : String) : Prop :=
  ∃ g ∈ t.fields, g.name = name ∧ ∃ scalar, g.type = .scalar scalar

namespace TypeStore

/-- What a schema says of the fields of an input type. -/
def inputValues (s : TypeStore) (t : CompiledType) : List InputValue :=
  (s.inputType t).fields.map fun f => .ofRef f.name f.type

/-- Whatever else is sent to the input type, a value of the scalar may be sent along under the key. -/
structure TakesScalar (s : TypeStore) (t : CompiledType) (key : String) (scalar : Scalar) : Prop where
  declared : ⟨key, .ofScalar scalar⟩ ∈ (s.inputType t).fields
  accepted : ∀ (table : TypeTable) (introspection : Bool) (v : Value), scalar.accepts v = true → ∀ fields,
    (Catalog.ofTable table introspection).acceptsArguments (s.inputValues t) ((key, v) :: fields) =
      (Catalog.ofTable table introspection).acceptsArguments (s.inputValues t) fields

end TypeStore

/-! ## Values of scalars in requests -/

theorem InputValue.ofRef_scalar (key : String) (scalar : Scalar) :
    ofRef key (.ofScalar scalar) = ⟨key, .named scalar.name, none⟩ := by
  unfold ofRef TypeShape.ofText
  cases scalar <;> simp [TypeShape.ofChars, TypeRef.ofScalar, TypeRef.named, TypeRef.toText, Scalar.name]

namespace Catalog

variable {c : Catalog} {scalar : Scalar} {v : Value} {key : String}

/-- Every schema has the scalars under their names, whatever else bears them. -/
theorem type?_scalar (table : TypeTable) (introspection : Bool) (scalar : Scalar) :
    (ofTable table introspection).type? scalar.name = some (.scalar scalar) := by
  unfold ofTable
  cases introspection <;> cases scalar <;> rfl

theorem accepts_scalar (hc : c.type? scalar.name = some (.scalar scalar)) (hv : scalar.accepts v = true) :
    c.accepts (.named scalar.name) v = true := by
  have hwhole : c.acceptsWhole (.named scalar.name) v = true := by
    unfold acceptsWhole TypeShape.concrete
    rw [hc]
    exact hv
  cases v with
  | null => rfl
  | object fields =>
    unfold accepts
    simp only [TypeShape.concrete, hc]
    exact hwhole
  | _ =>
    unfold accepts
    exact hwhole

/-- **An accepted value under a key that is not required** makes no difference to whether the rest is accepted. -/
theorem acceptsArguments_cons {declared : List InputValue} {d : InputValue}
    (hrequired : ∀ d ∈ declared, d.name = key → d.isRequired = false)
    (hfind : declared.find? (·.name == key) = some d) (hv : c.accepts d.type v = true) (fields : Entries Value) :
    c.acceptsArguments declared ((key, v) :: fields) = c.acceptsArguments declared fields := by
  have hall : (declared.all fun d => !d.isRequired || Entries.contains ((key, v) :: fields) d.name) =
      declared.all fun d => !d.isRequired || Entries.contains fields d.name := by
    rw [Bool.eq_iff_iff, List.all_eq_true, List.all_eq_true]
    refine forall₂_congr fun d hd => ?_
    by_cases hname : d.name = key
    · rw [hrequired d hd hname]
      rfl
    · unfold Entries.contains
      rw [Entries.get?, if_neg (Ne.symm hname)]
  unfold acceptsArguments
  rw [hall, acceptsFields, hfind]
  dsimp only
  rw [hv, Bool.true_and]

end Catalog

namespace TypeStore

variable {s : TypeStore} {type : CompiledType} {key : String}

theorem fields_inputType (s : TypeStore) (h : type.fields ≠ []) :
    (s.inputType type).fields = type.fields.filterMap s.inputField? := by
  unfold inputType
  exact if_neg fun hempty => h (List.isEmpty_iff.1 hempty)

theorem scalar_of_mem_inputValues (hne : type.fields ≠ [])
    (honly : ∀ g ∈ type.fields, g.name = key → ∃ scalar, g.type = .scalar scalar) {d : InputValue}
    (hd : d ∈ s.inputValues type) (hname : d.name = key) :
    ∃ scalar : Scalar, ⟨key, .ofScalar scalar⟩ ∈ (s.inputType type).fields ∧ d = ⟨key, .named scalar.name, none⟩ := by
  obtain ⟨f, hf, rfl⟩ := List.mem_map.1 hd
  have hfield := hf
  rw [fields_inputType s hne] at hfield
  obtain ⟨g, hg, hfield⟩ := List.mem_filterMap.1 hfield
  unfold inputField? at hfield
  cases ht : g.type with
  | scalar scalar =>
    rw [ht] at hfield
    cases hfield
    obtain rfl : g.name = key := hname
    exact ⟨scalar, hf, InputValue.ofRef_scalar g.name scalar⟩
  | relation handle relation =>
    rw [ht] at hfield
    obtain ⟨target, _, rfl⟩ := Option.map_eq_some_iff.1 hfield
    obtain ⟨scalar, hs⟩ := honly g hg hname
    rw [hs] at ht
    cases ht

/-- **Where a type has scalars alone under a name, ids may be sent under it.** -/
theorem exists_takesScalar (s : TypeStore) (h : type.HasScalar key)
    (honly : ∀ g ∈ type.fields, g.name = key → ∃ scalar, g.type = .scalar scalar) :
    ∃ scalar, s.TakesScalar type key scalar := by
  obtain ⟨g, hg, hname, scalar, ht⟩ := h
  have hne := List.ne_nil_of_mem hg
  have hmem : InputValue.ofRef key (.ofScalar scalar) ∈ s.inputValues type := by
    refine List.mem_map.2 ⟨⟨key, .ofScalar scalar⟩, ?_, rfl⟩
    rw [fields_inputType s hne]
    exact List.mem_filterMap.2 ⟨g, hg, by unfold inputField?; rw [ht, hname]⟩
  -- of several fields of the name, a value is checked against the first
  obtain ⟨d, hd⟩ := Option.isSome_iff_exists.1 <| List.find?_isSome.2
    (⟨_, hmem, beq_self_eq_true key⟩ : ∃ d ∈ s.inputValues type, (d.name == key) = true)
  have hnamed : (d.name == key) = true := List.find?_some (p := fun d : InputValue => d.name == key) hd
  obtain ⟨first, hdeclared, hfirst⟩ :=
    scalar_of_mem_inputValues hne honly (List.mem_of_find?_eq_some hd) (beq_iff_eq.1 hnamed)
  refine ⟨first, hdeclared, fun table introspection v hv => Catalog.acceptsArguments_cons ?_ hd ?_⟩
  · intro d' hd' hname'
    obtain ⟨scalar', _, rfl⟩ := scalar_of_mem_inputValues hne honly hd' hname'
    rfl
  · rw [hfirst]
    exact Catalog.accepts_scalar (Catalog.type?_scalar table introspection first) hv

end TypeStore

/-! ## Where a field of a type comes from -/

/-- **What a declared field adds** is its own scalar, or its relation, or the scalar of its flat key. -/
theorem Contributes.mem_cases {r : Registry} {link : String → Option Nat} {flavor : Flavor} {m : Model} {f : Field}
    {emitted : List String} {added : List CompiledField} {g : CompiledField}
    (h : Contributes r link flavor m emitted f added) (hg : g ∈ added) :
    (∃ scalar, f.kind.scalar? = some scalar ∧ g = ⟨f.wireName, f.name, .scalar scalar⟩) ∨
    (∃ target idColumn handle, f.kind = .foreignKey target idColumn ∧ link target = some handle ∧
      g = relationField r f target idColumn handle) ∨
    ∃ target idColumn key scalar, AddsFlat r flavor m emitted target idColumn key scalar ∧
      g = ⟨key, key, .scalar scalar⟩ := by
  cases h with
  | primaryKey hk => exact .inl ⟨_, by rw [hk]; rfl, List.mem_singleton.1 hg⟩
  | column hk => exact .inl ⟨_, by rw [hk]; rfl, List.mem_singleton.1 hg⟩
  | omitted _ _ => cases hg
  | relation hk _ hl _ => exact .inr (.inl ⟨_, _, _, hk, hl, List.mem_singleton.1 hg⟩)
  | relationWithKey hk _ hl hadds =>
    rcases List.mem_cons.1 hg with hg | hg
    · exact .inr (.inl ⟨_, _, _, hk, hl, hg⟩)
    · exact .inr (.inr ⟨_, _, _, _, hadds, List.mem_singleton.1 hg⟩)

namespace Compiler

variable {c : Compiler} {s : TypeStore} {m : Model} {f : Field} {g : CompiledField} {key entity : String}
  {type : CompiledType}

theorem MadeFrom.contributes_of_mem (hm : c.MadeFrom s m entity type) (hg : g ∈ type.fields) :
    ∃ f ∈ m.fields, ∃ emitted added, g ∈ added ∧
      Contributes c.registry (c.link? s type.flavor) type.flavor m emitted f added := by
  rw [hm.fields] at hg
  rcases mem_layout m.fields [] hg with hd | ⟨f, hf, done, hg⟩
  · cases hd
  · have hlink : c.LinksEntities (c.link? s type.flavor) f := fun target htarget => by
      rw [hm.linked f hf target htarget, isSome_key?]
    exact ⟨f, hf, _, _, hg, contributes_fieldLayout hf hlink⟩

/-- A scalar is that of a column, or it bears a name that the model does not declare. -/
theorem MadeFrom.scalar_cases {scalar : Scalar} (hm : c.MadeFrom s m entity type) (hg : g ∈ type.fields)
    (ht : g.type = .scalar scalar) :
    (∃ f ∈ m.fields, f.kind.isForeignKey = false ∧ f.wireName = g.name) ∨ ∀ f ∈ m.fields, f.wireName ≠ g.name := by
  obtain ⟨f, hf, emitted, added, hmem, hadded⟩ := hm.contributes_of_mem hg
  rcases hadded.mem_cases hmem with ⟨own, hs, rfl⟩ | ⟨target, idColumn, handle, _, _, rfl⟩ |
    ⟨_, _, key, own, hadds, rfl⟩
  · exact .inl ⟨f, hf, (FieldKind.exists_scalar?_iff _).1 ⟨own, hs⟩, rfl⟩
  · cases ht
  · exact .inr hadds.undeclared

/-- A relation bears the wire name of a foreign key, whose flat key it has. -/
theorem MadeFrom.relation_cases {handle : Nat} {relation : Relation} (hm : c.MadeFrom s m entity type)
    (hg : g ∈ type.fields) (ht : g.type = .relation handle relation) :
    ∃ f ∈ m.fields, ∃ idColumn, f.kind = .foreignKey relation.target idColumn ∧
      c.link? s type.flavor relation.target = some handle ∧ f.wireName = g.name ∧
      idColumn.bind (c.registry.flatIdKey? relation.target) = relation.idColumn := by
  obtain ⟨f, hf, emitted, added, hmem, hadded⟩ := hm.contributes_of_mem hg
  rcases hadded.mem_cases hmem with ⟨own, _, rfl⟩ | ⟨target, idColumn, handle', hk, hl, rfl⟩ | ⟨_, _, key, own, _, rfl⟩
  · cases ht
  · cases ht
    exact ⟨f, hf, idColumn, hk, hl, rfl, rfl⟩
  · cases ht

/-! ## What an input type has for a flat key -/

theorem MadeFrom.hasScalar_of_column (hm : c.MadeFrom s m entity type) (hf : f ∈ m.fields)
    (hk : f.kind.isForeignKey = false) : type.HasScalar f.wireName := by
  obtain ⟨scalar, hs⟩ := (FieldKind.exists_scalar?_iff _).2 hk
  refine ⟨⟨f.wireName, f.name, .scalar scalar⟩, ?_, rfl, scalar, rfl⟩
  rw [hm.fields]
  exact column_mem_layout hf hs

/-- Under a name that no foreign key has, a type has scalars alone. -/
theorem MadeFrom.scalar_of_name (hm : c.MadeFrom s m entity type)
    (hfree : ∀ f ∈ m.fields, f.kind.isForeignKey = true → f.wireName ≠ key) (hg : g ∈ type.fields)
    (hname : g.name = key) : ∃ scalar, g.type = .scalar scalar := by
  cases ht : g.type with
  | scalar scalar => exact ⟨scalar, rfl⟩
  | relation handle relation =>
    obtain ⟨f, hf, idColumn, hk, _, hwire, _⟩ := hm.relation_cases hg ht
    exact absurd (hwire.trans hname) (hfree f hf (by rw [hk]; rfl))

/-- **A key that a linked foreign key reads has a scalar field**, if no foreign key is called like it. Whatever bears
the name instead of its own flat field is then a column or the flat field of another foreign key. -/
theorem MadeFrom.hasScalar_of_reads (hm : c.MadeFrom s m entity type) (hinput : type.flavor = .input)
    (hf : f ∈ m.fields) (hl : ∀ target, f.kind.target? = some target → (c.link? s type.flavor target).isSome = true)
    (hr : c.registry.Reads f key) (hfree : ∀ f ∈ m.fields, f.kind.isForeignKey = true → f.wireName ≠ key) :
    type.HasScalar key := by
  by_cases hw : key ∈ m.fields.map (·.wireName)
  · obtain ⟨f', hf', rfl⟩ := List.mem_map.1 hw
    exact hm.hasScalar_of_column hf' (Bool.eq_false_iff.2 fun hk => hfree f' hf' hk rfl)
  · have hnamed : ∃ g ∈ type.fields, g.name = key := by
      rw [hm.fields]
      refine mem_layout_of_mem_fieldLayout (f := f) (fun done => ?_) m.fields [] hf
      rw [hinput] at hl ⊢
      exact (exists_fieldLayout_of_reads hl hr done).resolve_left hw
    obtain ⟨g, hg, hname⟩ := hnamed
    exact ⟨g, hg, hname, hm.scalar_of_name hfree hg hname⟩

/-- Where a foreign key has the name, a scalar field of it can only be a column's. -/
theorem MadeFrom.hasScalar_iff_of_foreignKey (hm : c.MadeFrom s m entity type) (hf : f ∈ m.fields)
    (hname : f.wireName = key) :
    type.HasScalar key ↔ ∃ f' ∈ m.fields, f'.kind.isForeignKey = false ∧ f'.wireName = key := by
  constructor
  · rintro ⟨g, hg, rfl, scalar, ht⟩
    exact (hm.scalar_cases hg ht).resolve_right fun hno => hno f hf hname
  · rintro ⟨f', hf', hk, rfl⟩
    exact hm.hasScalar_of_column hf' hk

/-- **The flat key of a relation has a scalar field in the input type** whatever else the model declares, unless a
foreign key is called like it. A relation that is called so keeps the name, and then just a column of the same name
makes a scalar field too. -/
theorem flat_id_offered (c : Compiler) (requests : List TypeRequest) {type : CompiledType} {g : CompiledField}
    {handle : Nat} {relation : Relation} {key : String} (htype : type ∈ (c.storeAfter requests).types)
    (hinput : type.flavor = .input) (hg : g ∈ type.fields) (ht : g.type = .relation handle relation)
    (hkey : relation.idColumn = some key) (hpk : (c.registry.primaryKey? relation.target).isSome = true) :
    ∃ m, c.registry.model? type.className = some m ∧
      ((∀ f ∈ m.fields, f.kind.isForeignKey = true → f.wireName ≠ key) →
        type.HasScalar key ∧ ∃ scalar, (c.storeAfter requests).TakesScalar type key scalar) ∧
      ∀ f ∈ m.fields, ∀ target, f.kind.target? = some target → c.registry.IsEntity target → f.wireName = key →
        (∃ handle' relation', ⟨key, f.name, .relation handle' relation'⟩ ∈ type.fields) ∧
        (type.HasScalar key ↔ ∃ f' ∈ m.fields, f'.kind.isForeignKey = false ∧ f'.wireName = key) := by
  have hsettled := settled_storeAfter c requests
  obtain ⟨i, hi⟩ := TypeStore.mem_types_iff.1 htype
  obtain ⟨_, m, entity, hmade⟩ := hsettled.filled_of_get? hi
  obtain ⟨f, hf, idColumn, hk, hl, _, hflat⟩ := hmade.relation_cases hg ht
  have hreads : c.registry.Reads f key := .inr ⟨relation.target, idColumn, hk, hpk, hflat.trans hkey⟩
  -- the type has a relation of `f`, so the target of `f` was compiled
  have hlinked : ∀ target, f.kind.target? = some target →
      (c.link? (c.storeAfter requests) type.flavor target).isSome = true := by
    intro target htarget
    rw [hk] at htarget
    cases htarget
    rw [hl]
    rfl
  refine ⟨m, hmade.model, fun hfree => ?_, fun f' hf' target htarget he hname => ?_⟩
  · have hscalar := hmade.hasScalar_of_reads hinput hf hlinked hreads hfree
    exact ⟨hscalar, TypeStore.exists_takesScalar _ hscalar fun g hg => hmade.scalar_of_name hfree hg⟩
  · refine ⟨?_, hmade.hasScalar_iff_of_foreignKey hf' hname⟩
    cases hk' : f'.kind with
    | foreignKey target' idColumn' =>
      rw [hk'] at htarget
      cases htarget
      obtain ⟨handle', hmem⟩ := hsettled.exists_relation htype hmade.model hf' hk' he
      rw [hname] at hmem
      exact ⟨handle', _, hmem⟩
    | _ => rw [hk'] at htarget; cases htarget

/-- A schema lets a person's pet be given by its id. -/
theorem pet_id_offered : ∃ type ∈ (petCompiler.storeAfter [⟨.input, "Person"⟩]).types, type.flavor = .input ∧
    ⟨"pet", "pet", .relation 1 ⟨"Pet", "pet", some "petId"⟩⟩ ∈ type.fields ∧
    (petCompiler.registry.primaryKey? "Pet").isSome = true ∧ type.HasScalar "petId" := by
  obtain ⟨type, htype, hinput, hfield, hclass⟩ : ∃ type ∈ (petCompiler.storeAfter [⟨.input, "Person"⟩]).types,
      type.flavor = .input ∧ ⟨"pet", "pet", .relation 1 ⟨"Pet", "pet", some "petId"⟩⟩ ∈ type.fields ∧
        type.className = "Person" := by
    decide
  have hpk : (petCompiler.registry.primaryKey? "Pet").isSome = true := by decide
  have hfree : ∀ f ∈ personModel.fields, f.kind.isForeignKey = true → f.wireName ≠ "petId" := by decide
  obtain ⟨m, hm, hscalar, _⟩ := flat_id_offered petCompiler [⟨.input, "Person"⟩] htype hinput hfield rfl rfl hpk
  rw [hclass] at hm
  obtain rfl : personModel = m := Option.some.inj hm
  exact ⟨type, htype, hinput, hfield, hpk, (hscalar hfree).1⟩

/-- A pet's parent may be given under a key that is called like its owner. -/
def ownerKeyCompiler : Compiler where
  registry := Registry.ofDeclarations (petDeclarations ++
    [.field "Pet" "parent" (.foreignKey "Pet" (some (.named "owner"))) none])
  inputPrefix := "input"

/-- The owner keeps the name, and the parent's id has no field. -/
theorem owner_key_taken : ∃ type ∈ (ownerKeyCompiler.storeAfter [⟨.input, "Pet"⟩]).types, type.flavor = .input ∧
    ⟨"parent", "parent", .relation 0 ⟨"Pet", "parent", some "owner"⟩⟩ ∈ type.fields ∧
    (ownerKeyCompiler.registry.primaryKey? "Pet").isSome = true ∧ ¬ type.HasScalar "owner" := by
  obtain ⟨type, htype, hinput, hfield, howner⟩ : ∃ type ∈ (ownerKeyCompiler.storeAfter [⟨.input, "Pet"⟩]).types,
      type.flavor = .input ∧ ⟨"parent", "parent", .relation 0 ⟨"Pet", "parent", some "owner"⟩⟩ ∈ type.fields ∧
        ∀ g ∈ type.fields, g.name = "owner" → g.type = .relation 1 ⟨"Person", "owner", some "personId"⟩ := by
    decide
  refine ⟨type, htype, hinput, hfield, by decide, ?_⟩
  rintro ⟨g, hg, hname, scalar, ht⟩
  rw [howner g hg hname] at ht
  cases ht

end Compiler

end EntityGraph
