import EntityGraph.Proofs.Schema.Steps
import EntityGraph.Proofs.Types.WellFormed
import Mathlib.Data.List.Nodup
/-!
# When a type gets two fields of one name

A build stops short if a type that it hands over has two fields of one name. The roots never have, and neither does
the flat key of a foreign key ever make one: it is added only where its name is free (`nodup_layout_iff`). What is left
are the wire names that a model declares. They are not checked against each other, so that a build repeats a name just
when some compiled model exposes a wire name twice (`build_repeats_iff`).
-/

namespace EntityGraph

/-! ## Finding a repetition -/

namespace SchemaType

theorem getElem?_filter_take_eq_none_iff {names : List String} {n : Nat} (h : n < names.length) :
    (names[n]?.filter fun name => (names.take n).contains name) = none ↔ names[n] ∉ names.take n := by
  rw [List.getElem?_eq_getElem h, Option.filter_eq_none_iff]
  simp

theorem firstRepeat?_eq_none_iff (names : List String) : firstRepeat? names = none ↔ names.Nodup := by
  unfold firstRepeat? List.Nodup
  rw [List.findSome?_eq_none_iff, List.pairwise_iff_getElem]
  constructor
  · intro h i j hi hj hij heq
    have hj' := (getElem?_filter_take_eq_none_iff hj).1 (h j (List.mem_range.2 hj))
    refine hj' (List.mem_take_iff_getElem.2 ⟨i, by omega, heq⟩)
  · intro h j hj
    have hj' := List.mem_range.1 hj
    refine (getElem?_filter_take_eq_none_iff hj').2 fun hmem => ?_
    obtain ⟨i, hi, heq⟩ := List.mem_take_iff_getElem.1 hmem
    exact h i j (by omega) hj' (by omega) heq

end SchemaType

theorem Assembly.repeatedField?_eq_none_iff (a : Assembly) :
    a.repeatedField? = none ↔ ∀ t ∈ a.types, t.fieldNames.Nodup := by
  unfold repeatedField?
  rw [List.findSome?_eq_none_iff]
  exact forall₂_congr fun t _ => SchemaType.firstRepeat?_eq_none_iff t.fieldNames

/-! ## Names in a layout -/

/-- A foreign key is kept if it leads to an entity, and any other field always. -/
def Registry.keeps (r : Registry) (f : Field) : Bool := f.kind.target?.all fun target => decide (r.IsEntity target)

/-- The wire names under which a compiled model exposes its fields. -/
def Registry.exposedNames (r : Registry) (m : Model) : List String := (m.fields.filter r.keeps).map (·.wireName)

namespace Compiler

variable {c : Compiler} {flavor : Flavor} {m : Model} {link : String → Option Nat} {f : Field}

theorem free_of_flatField? {done : List CompiledField} {target key : String} {g : CompiledField}
    (h : c.flatField? m done target key = some g) :
    g.name = key ∧ key ∉ m.fields.map (·.wireName) ∧ key ∉ done.map (·.name) := by
  unfold flatField? at h
  split at h
  · cases h
  · rename_i hfree
    rw [Bool.or_eq_true, not_or, List.any_eq_true, List.any_eq_true] at hfree
    obtain ⟨s, _, rfl⟩ := Option.map_eq_some_iff.1 h
    refine ⟨rfl, fun hm => hfree.1 ?_, fun hm => hfree.2 ?_⟩
    · obtain ⟨f, hf, hname⟩ := List.mem_map.1 hm
      exact ⟨f, hf, beq_iff_eq.2 hname⟩
    · obtain ⟨g, hg, hname⟩ := List.mem_map.1 hm
      exact ⟨g, hg, beq_iff_eq.2 hname⟩

/-- A linked foreign key adds its wire name, and beside it a free name at most. -/
theorem names_relationFields (c : Compiler) (flavor : Flavor) (m : Model) (done : List CompiledField) (f : Field)
    (target : String) (idColumn : Option IdColumn) (handle : Nat) : ∃ flat : List String,
      (c.relationFields flavor m done f target idColumn handle).map (·.name) = f.wireName :: flat ∧
      (flat = [] ∨
        ∃ key, flat = [key] ∧ key ∉ m.fields.map (·.wireName) ∧ key ∉ done.map (·.name) ++ [f.wireName]) := by
  unfold relationFields
  dsimp only
  split
  · rename_i key _
    cases hg : c.flatField? m (done ++ [_]) target key with
    | none => exact ⟨[], rfl, .inl rfl⟩
    | some g =>
      obtain ⟨hname, hwire, hdone⟩ := free_of_flatField? hg
      rw [List.map_append] at hdone
      exact ⟨[key], by rw [← hname]; rfl, .inr ⟨key, rfl, hwire, hdone⟩⟩
  · exact ⟨[], rfl, .inl rfl⟩

theorem nodup_append_free_iff {names rest flat : List String}
    (h : flat = [] ∨ ∃ key, flat = [key] ∧ key ∉ names ∧ key ∉ rest) :
    (names ++ flat ++ rest).Nodup ↔ (names ++ rest).Nodup := by
  rcases h with rfl | ⟨key, rfl, hnames, hrest⟩
  · rw [List.append_nil]
  · rw [List.append_assoc, List.singleton_append, List.nodup_middle, List.nodup_cons, List.mem_append]
    exact and_iff_right fun hk => hk.elim hnames hrest

/-- What a field adds, it adds without a repetition beyond that of its wire name. -/
theorem nodup_fieldLayout_iff (hl : ∀ target, f.kind.target? = some target →
      (link target).isSome = decide (c.registry.IsEntity target)) (done : List CompiledField) {rest : List String}
    (hrest : ∀ name ∈ rest, name ∈ m.fields.map (·.wireName)) :
    ((done ++ c.fieldLayout flavor m link done f).map (·.name) ++ rest).Nodup ↔
      (done.map (·.name) ++ (([f].filter c.registry.keeps).map (·.wireName) ++ rest)).Nodup := by
  rw [List.map_append, ← List.append_assoc]
  unfold fieldLayout Registry.keeps
  cases hk : f.kind with
  | primaryKey s => simp [hk, FieldKind.target?]
  | column s => simp [hk, FieldKind.target?]
  | foreignKey target idColumn =>
    have hlink := hl target (by rw [hk]; rfl)
    cases hh : link target with
    | none =>
      rw [hh] at hlink
      simp [hk, hh, FieldKind.target?, ← hlink]
    | some handle =>
      rw [hh] at hlink
      obtain ⟨flat, hnames, hflat⟩ := names_relationFields c flavor m done f target idColumn handle
      simp only [hh, hnames]
      have hkept :
          ([f].filter fun f => f.kind.target?.all fun target => decide (c.registry.IsEntity target)) = [f] := by
        simp [hk, FieldKind.target?, ← hlink]
      rw [hkept, List.append_cons]
      refine nodup_append_free_iff (hflat.imp_right ?_)
      rintro ⟨key, hkey, hwire, hdone⟩
      exact ⟨key, hkey, hdone, fun hr => hwire (hrest key hr)⟩

/-- **A layout repeats a name just when the wire names of the kept fields do.** -/
theorem nodup_layout_iff : ∀ (fs : List Field) (done : List CompiledField), (∀ f ∈ fs, f ∈ m.fields) →
    (∀ f ∈ fs, ∀ target, f.kind.target? = some target →
      (link target).isSome = decide (c.registry.IsEntity target)) →
    (((c.layout flavor m link fs done).map (·.name)).Nodup ↔
      (done.map (·.name) ++ (fs.filter c.registry.keeps).map (·.wireName)).Nodup)
  | [], done, _, _ => by
    rw [List.filter_nil, List.map_nil, List.append_nil]
    rfl
  | f :: fs, done, hfs, hl => by
    unfold layout
    -- a flat key that is added now must not meet a wire name that comes later
    have hrest : ∀ name ∈ (fs.filter c.registry.keeps).map (·.wireName), name ∈ m.fields.map (·.wireName) := by
      intro name hname
      obtain ⟨g, hg, rfl⟩ := List.mem_map.1 hname
      exact List.mem_map_of_mem (hfs g (List.mem_cons_of_mem _ (List.mem_filter.1 hg).1))
    rw [nodup_layout_iff fs _ (fun g hg => hfs g (List.mem_cons_of_mem _ hg))
      (fun g hg => hl g (List.mem_cons_of_mem _ hg)), nodup_fieldLayout_iff (hl f List.mem_cons_self) done hrest,
      ← List.map_append, ← List.filter_append]
    rfl

variable {s : TypeStore} {type : CompiledType}

theorem MadeFrom.nodup_fieldNames_iff {entity : String} (hm : c.MadeFrom s m entity type) :
    type.fieldNames.Nodup ↔ (c.registry.exposedNames m).Nodup := by
  unfold CompiledType.fieldNames Registry.exposedNames
  rw [hm.fields]
  refine nodup_layout_iff m.fields [] (fun f hf => hf) fun f hf target htarget => ?_
  rw [hm.linked f hf target htarget, Bool.eq_iff_iff, decide_eq_true_iff, isSome_key?]

end Compiler

/-! ## Names in a schema type -/

namespace TypeStore

variable {s : TypeStore} {t : CompiledType}

theorem fieldNames_schemaType (h : ∀ f ∈ t.fields, s.Resolved f) :
    (s.schemaType t).value.fieldNames = if t.fields = [] then [placeholderName] else t.fieldNames := by
  split
  · rename_i hnil
    unfold schemaType
    cases t.flavor with
    | output =>
      change (if t.fields.isEmpty then [OutputField.placeholder] else _).map (·.name) = _
      rw [hnil]
      rfl
    | input =>
      change (if t.fields.isEmpty then [(⟨placeholderName, .ofScalar .string⟩ : InputField)] else _).map (·.name) = _
      rw [hnil]
      rfl
  · rename_i hne
    exact (schemaType_of_resolved h).2 hne

theorem nodup_schemaType_iff (h : ∀ f ∈ t.fields, s.Resolved f) :
    (s.schemaType t).value.fieldNames.Nodup ↔ t.fieldNames.Nodup := by
  rw [fieldNames_schemaType h]
  split
  · rename_i hnil
    unfold CompiledType.fieldNames
    rw [hnil]
    exact iff_of_true (List.nodup_singleton _) List.nodup_nil
  · rfl

end TypeStore

/-! ## Whole builds -/

namespace Builder

variable {b : Builder}

theorem types_assembly (b : Builder) :
    b.assembly.types = b.prepared.2.types.map fun t => (b.prepared.2.schemaType t).value := rfl

theorem nodup_rootTypes (hs : b.compiler.Settled b.store) :
    ∀ t ∈ b.assembly.roots.schemaTypes, t.fieldNames.Nodup := by
  intro t ht
  obtain ⟨kind, rfl, _⟩ := Roots.mem_schemaTypes ht
  have hroot := orderly_roots hs kind
  rw [Roots.fieldNames_outputType hroot]
  split
  · exact List.nodup_singleton _
  · exact (b.assembly.roots.fields kind).distinct

theorem nodup_types_iff (hs : b.compiler.Settled b.store) : (∀ t ∈ b.assembly.types, t.fieldNames.Nodup) ↔
    ∀ t ∈ b.prepared.2.types, ∀ m, b.registry.model? t.className = some m → (b.registry.exposedNames m).Nodup := by
  have hp := settled_prepared hs
  rw [types_assembly, List.forall_mem_map]
  refine forall₂_congr fun t ht => ?_
  obtain ⟨i, hi⟩ := TypeStore.mem_types_iff.1 ht
  obtain ⟨_, m, entity, hm⟩ := hp.filled_of_get? hi
  have hmodel : b.registry.model? t.className = some m := hm.model
  rw [TypeStore.nodup_schemaType_iff (hp.resolved ht), hm.nodup_fieldNames_iff]
  constructor
  · intro hn m' hm'
    rw [hmodel] at hm'
    cases hm'
    exact hn
  · exact fun hn => hn m hmodel

theorem repeatedField_iff (b : Builder) :
    (∃ name, b.build.value.1 = .error (.repeatedField name)) ↔ ¬ ∀ t ∈ b.assembly.types, t.fieldNames.Nodup := by
  rw [← Assembly.repeatedField?_eq_none_iff, build_value]
  unfold Assembly.toSchema
  cases b.assembly.repeatedField? with
  | some name => simp
  | none =>
    dsimp only
    cases b.assembly.table.refusal? <;> simp

/-- **A build hands over a type with two fields of one name just when a compiled model exposes a wire name twice**, and
then it gives no schema for this reason. Neither roots nor flat keys ever repeat a name. -/
theorem build_repeats_iff (registry : Registry) (settings : Settings) (steps : List BuilderStep) :
    let b := (Builder.new registry settings).run steps
    let apart := ∀ t ∈ b.build.value.2.store.types, ∀ m, registry.model? t.className = some m →
      (registry.exposedNames m).Nodup
    ((∀ t ∈ b.assembly.schemaTypes, t.fieldNames.Nodup) ↔ apart) ∧
      ((∃ name, b.build.value.1 = .error (.repeatedField name)) ↔ ¬ apart) := by
  intro b apart
  have hs : b.compiler.Settled b.store := settled_run registry settings steps
  have htypes : (∀ t ∈ b.assembly.types, t.fieldNames.Nodup) ↔ apart := by
    have h := nodup_types_iff hs
    rw [show b.registry = registry from registry_run registry settings steps] at h
    exact h
  refine ⟨?_, by rw [repeatedField_iff, htypes]⟩
  unfold Assembly.schemaTypes
  rw [List.forall_mem_append, htypes]
  exact and_iff_left (nodup_rootTypes hs)

/-- Two columns that are both called `name` outside. -/
def twinDeclarations : List Declaration := [
  .entity "Pet" none,
  .field "Pet" "name" (.column .string) none,
  .field "Pet" "title" (.column .string) (some "name")]

/-- With two columns of one wire name there is no schema. -/
theorem twin_columns_repeated :
    ((Builder.new (.ofDeclarations twinDeclarations) {}).run [.registerModels ["Pet"]]).build.value.1 =
      .error (.repeatedField "name") := by
  rfl

end Builder

end EntityGraph
