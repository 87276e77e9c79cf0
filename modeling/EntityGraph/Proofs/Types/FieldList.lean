import EntityGraph.Proofs.Registry.Fields
import EntityGraph.Proofs.Types.Requests
/-!
# The fields of a type that is compiled

When an entity is compiled whose name has no type of the flavor yet, other types may be compiled between one of its
fields and the next, and they may refer back to it. Its fields are what its own declarations say all the same.
`Contributes` says what each declared field adds, and `FieldList` strings this together in order of declaration; there
is one such list, and it is the list of the compiled type (`fieldList_compiled`).
-/

namespace EntityGraph

/-! ## What declarations say -/

section Contributions

variable (r : Registry) (link : String → Option Nat) (flavor : Flavor) (m : Model)

/-- After the relation of a foreign key to `target`, when the fields so far have the names `emitted`, its flat key gets
a field of its own: in an input type, if the target has a primary key and the name is free. -/
structure AddsFlat (emitted : List String) (target : String) (idColumn : Option IdColumn) (key : String)
    (scalar : Scalar) : Prop where
  input : flavor = .input
  expands : idColumn.bind (r.flatIdKey? target) = some key
  scalar : ∃ pk, r.primaryKey? target = some pk ∧ pk.kind = .primaryKey scalar
  /-- No field of the model is called so outside, be it declared before or after, kept or left out. -/
  undeclared : ∀ f ∈ m.fields, f.wireName ≠ key
  fresh : key ∉ emitted

/-- The relation of a foreign key. -/
def relationField (f : Field) (target : String) (idColumn : Option IdColumn) (handle : Nat) : CompiledField :=
  ⟨f.wireName, f.name, .relation handle ⟨target, f.name, idColumn.bind (r.flatIdKey? target)⟩⟩

/-- What a declared field adds to a type whose fields so far have the names `emitted`. -/
inductive Contributes (emitted : List String) (f : Field) : List CompiledField → Prop
  | primaryKey {scalar : Scalar} (hk : f.kind = .primaryKey scalar) :
    Contributes emitted f [⟨f.wireName, f.name, .scalar scalar⟩]
  | column {scalar : Scalar} (hk : f.kind = .column scalar) :
    Contributes emitted f [⟨f.wireName, f.name, .scalar scalar⟩]
  | omitted {target : String} {idColumn : Option IdColumn} (hk : f.kind = .foreignKey target idColumn)
    (he : ¬ r.IsEntity target) : Contributes emitted f []
  | relation {target : String} {idColumn : Option IdColumn} {handle : Nat} (hk : f.kind = .foreignKey target idColumn)
    (he : r.IsEntity target) (hl : link target = some handle)
    (hflat : ∀ key scalar, ¬ AddsFlat r flavor m emitted target idColumn key scalar) :
    Contributes emitted f [relationField r f target idColumn handle]
  | relationWithKey {target : String} {idColumn : Option IdColumn} {handle : Nat} {key : String} {scalar : Scalar}
    (hk : f.kind = .foreignKey target idColumn) (he : r.IsEntity target) (hl : link target = some handle)
    (hflat : AddsFlat r flavor m emitted target idColumn key scalar) :
    Contributes emitted f [relationField r f target idColumn handle, ⟨key, key, .scalar scalar⟩]

/-- The declared fields, in their order, complete the fields that are done to a whole list. -/
inductive FieldList : List CompiledField → List Field → List CompiledField → Prop
  | nil {done : List CompiledField} : FieldList done [] done
  | cons {done added fields : List CompiledField} {f : Field} {fs : List Field}
    (hf : Contributes r link flavor m (done.map (·.name)) f added) (hfs : FieldList (done ++ added) fs fields) :
    FieldList done (f :: fs) fields

variable {r link flavor m}

/-- A foreign key has one flat key at most, and that one scalar. -/
theorem AddsFlat.unique {emitted : List String} {target : String} {idColumn : Option IdColumn} {key key' : String}
    {scalar scalar' : Scalar}
    (h : AddsFlat r flavor m emitted target idColumn key scalar)
    (h' : AddsFlat r flavor m emitted target idColumn key' scalar') : key = key' ∧ scalar = scalar' := by
  obtain ⟨pk, hpk, hkind⟩ := h.scalar
  obtain ⟨pk', hpk', hkind'⟩ := h'.scalar
  rw [hpk] at hpk'
  cases hpk'
  rw [hkind] at hkind'
  cases hkind'
  exact ⟨Option.some.inj (h.expands.symm.trans h'.expands), rfl⟩

end Contributions

namespace Compiler

variable {c : Compiler} {s : TypeStore} {flavor : Flavor} {m : Model} {link : String → Option Nat} {f : Field}
  {done : List CompiledField} {target : String} {idColumn : Option IdColumn} {handle : Nat}

/-! ## Flat keys -/

theorem scalar_primaryKey?_iff {scalar : Scalar} :
    (c.registry.primaryKey? target).bind (·.kind.scalar?) = some scalar ↔
      ∃ pk, c.registry.primaryKey? target = some pk ∧ pk.kind = .primaryKey scalar := by
  rw [Option.bind_eq_some_iff]
  refine exists_congr fun pk => and_congr_right fun hpk => ?_
  obtain ⟨s, hs⟩ := Registry.kind_of_primaryKey? hpk
  simp [hs, FieldKind.scalar?]

/-- The compiler makes a field for a flat key just when one is to be added. -/
theorem flatField?_eq_some_iff (hf : f ∈ m.fields) {key : String}
    (hkey : idColumn.bind (c.registry.flatIdKey? target) = some key) {g : CompiledField} :
    c.flatField? m (done ++ [relationField c.registry f target idColumn handle]) target key = some g ↔
      ∃ scalar, AddsFlat c.registry .input m (done.map (·.name)) target idColumn key scalar ∧
        g = ⟨key, key, .scalar scalar⟩ := by
  unfold flatField?
  constructor
  · intro h
    split at h
    · cases h
    · rename_i hfree
      rw [Bool.or_eq_true, not_or, List.any_eq_true, List.any_eq_true] at hfree
      obtain ⟨scalar, hs, rfl⟩ := Option.map_eq_some_iff.1 h
      refine ⟨scalar, ⟨rfl, hkey, scalar_primaryKey?_iff.1 hs, fun f' hf' he => hfree.1 ⟨f', hf', beq_iff_eq.2 he⟩,
        fun hm => hfree.2 ?_⟩, rfl⟩
      obtain ⟨g, hg, hname⟩ := List.mem_map.1 hm
      exact ⟨g, List.mem_append_left _ hg, beq_iff_eq.2 hname⟩
  · rintro ⟨scalar, hadds, rfl⟩
    have hdeclared : (m.fields.any fun f => f.wireName == key) = false := by
      rw [List.any_eq_false]
      exact fun f' hf' he => hadds.undeclared f' hf' (beq_iff_eq.1 he)
    have hemitted : ((done ++ [relationField c.registry f target idColumn handle]).any fun g => g.name == key) =
        false := by
      rw [List.any_eq_false]
      intro g hg he
      rcases List.mem_append.1 hg with hg | hg
      · exact hadds.fresh (List.mem_map.2 ⟨g, hg, beq_iff_eq.1 he⟩)
      · -- the relation itself has a declared name
        rw [List.mem_singleton.1 hg] at he
        exact hadds.undeclared f hf (beq_iff_eq.1 he)
    rw [hdeclared, hemitted, scalar_primaryKey?_iff.2 hadds.scalar]
    rfl

/-- **What a foreign key with a linked target adds**: its relation, and then the field of its flat key if that is to be
added. -/
theorem relationFields_cases (c : Compiler) (flavor : Flavor) (done : List CompiledField) (hf : f ∈ m.fields)
    (target : String) (idColumn : Option IdColumn) (handle : Nat) :
    (c.relationFields flavor m done f target idColumn handle =
        [relationField c.registry f target idColumn handle] ∧
      ∀ key scalar, ¬ AddsFlat c.registry flavor m (done.map (·.name)) target idColumn key scalar) ∨
    ∃ key scalar, AddsFlat c.registry flavor m (done.map (·.name)) target idColumn key scalar ∧
      c.relationFields flavor m done f target idColumn handle =
        [relationField c.registry f target idColumn handle, ⟨key, key, .scalar scalar⟩] := by
  unfold relationFields
  dsimp only
  split
  · rename_i key hkey
    rw [← relationField]
    cases hflat : c.flatField? m (done ++ [relationField c.registry f target idColumn handle]) target key with
    | none =>
      refine .inl ⟨rfl, fun key' scalar hadds => ?_⟩
      obtain rfl : key = key' := Option.some.inj (hkey.symm.trans hadds.expands)
      rw [(flatField?_eq_some_iff hf hkey).2 ⟨scalar, hadds, rfl⟩] at hflat
      cases hflat
    | some g =>
      obtain ⟨scalar, hadds, rfl⟩ := (flatField?_eq_some_iff hf hkey).1 hflat
      exact .inr ⟨key, scalar, hadds, rfl⟩
  · rename_i hno
    refine .inl ⟨rfl, fun key scalar hadds => hno key hadds.input hadds.expands⟩

/-! ## Whole lists -/

/-- Just the entities among the targets of a field are linked. -/
def LinksEntities (c : Compiler) (link : String → Option Nat) (f : Field) : Prop :=
  ∀ target, f.kind.target? = some target → ((link target).isSome ↔ c.registry.IsEntity target)

theorem contributes_fieldLayout (hf : f ∈ m.fields) (hlink : c.LinksEntities link f) :
    Contributes c.registry link flavor m (done.map (·.name)) f (c.fieldLayout flavor m link done f) := by
  unfold fieldLayout
  split
  · exact .primaryKey ‹_›
  · exact .column ‹_›
  · rename_i target idColumn hk
    have hlink := hlink target (by rw [hk]; rfl)
    cases hl : link target with
    | none =>
      refine .omitted hk fun he => ?_
      rw [← hlink, hl] at he
      cases he
    | some handle =>
      have he : c.registry.IsEntity target := hlink.1 (by rw [hl]; rfl)
      dsimp only
      rcases relationFields_cases c flavor done hf target idColumn handle with ⟨heq, hno⟩ | ⟨key, scalar, hadds, heq⟩
      · rw [heq]
        exact .relation hk he hl hno
      · rw [heq]
        exact .relationWithKey hk he hl hadds

theorem eq_fieldLayout_of_contributes {added : List CompiledField} (hf : f ∈ m.fields) (hlink : c.LinksEntities link f)
    (h : Contributes c.registry link flavor m (done.map (·.name)) f added) :
    added = c.fieldLayout flavor m link done f := by
  unfold fieldLayout
  cases h with
  | primaryKey hk => rw [hk]
  | column hk => rw [hk]
  | @omitted target idColumn hk he =>
    have hl : link target = none := by
      rw [← hlink target (by rw [hk]; rfl)] at he
      exact Option.not_isSome_iff_eq_none.1 he
    simp only [hk, hl]
  | @relation target idColumn handle hk he hl hno =>
    simp only [hk, hl]
    rcases relationFields_cases c flavor done hf target idColumn handle with ⟨heq, _⟩ | ⟨key, scalar, hadds, _⟩
    · exact heq.symm
    · exact absurd hadds (hno key scalar)
  | @relationWithKey target idColumn handle key scalar hk he hl hadds =>
    simp only [hk, hl]
    rcases relationFields_cases c flavor done hf target idColumn handle with ⟨_, hno⟩ | ⟨key', scalar', hadds', heq⟩
    · exact absurd hadds (hno key scalar)
    · obtain ⟨rfl, rfl⟩ := hadds.unique hadds'
      exact heq.symm

/-- **The declared fields complete what is done to its layout, and to nothing else**, where just the entities among
their targets are linked. -/
theorem fieldList_iff : ∀ (fs : List Field) (done fields : List CompiledField), (∀ f ∈ fs, f ∈ m.fields) →
    (∀ f ∈ fs, c.LinksEntities link f) →
    (FieldList c.registry link flavor m done fs fields ↔ fields = c.layout flavor m link fs done)
  | [], done, fields, _, _ => ⟨fun h => by cases h; rfl, fun h => by rw [h]; exact .nil⟩
  | f :: fs, done, fields, hfs, hlink => by
    have hf := hfs f List.mem_cons_self
    have hlf := hlink f List.mem_cons_self
    have hrest := fieldList_iff fs (done ++ c.fieldLayout flavor m link done f) fields
      (fun g hg => hfs g (List.mem_cons_of_mem _ hg)) fun g hg => hlink g (List.mem_cons_of_mem _ hg)
    unfold layout
    rw [← hrest]
    constructor
    · rintro (_ | ⟨hadded, hfields⟩)
      rw [← eq_fieldLayout_of_contributes hf hlf hadded]
      exact hfields
    · exact fun h => .cons (contributes_fieldLayout hf hlf) h

/-! ## New types -/

/-- **The answer to a request for an entity whose name has no type yet** is a type of the class asked for. -/
theorem Settled.request_of_free (h : c.Settled s) (q : TypeRequest) {entity : String}
    (hm : c.registry.model? q.className = some m) (he : m.entity = some entity)
    (hfree : (s.handles q.flavor).get? (Text.lowercase entity) = none) :
    ∃ type, ((c.request q).run s).value.1 = some type ∧ type.className = q.className ∧ type.flavor = q.flavor ∧
      c.MadeFrom (c.storeOf s q) m entity type := by
  obtain ⟨handle, p, hr⟩ := c.compileAt_bound q.flavor q.className ⟨s, []⟩
  have hcompile : c.compile q.flavor q.className s = ⟨(handle, p.store), p.log⟩ := by
    unfold compile
    rw [hr]
  have hlink : c.link? (c.storeOf s q) q.flavor q.className = handle := by
    rw [storeOf_eq, ← (compile_spec c q.flavor q.className h.numbered).2.1, hcompile]
  have hstore : c.storeOf s q = p.store := by rw [storeOf_eq, hcompile]
  rcases visitBy_cases hr with ⟨hk, _⟩ | ⟨known, hl, _⟩ | ⟨m', entity', fields, p', hm', he', _, _, rfl, rfl⟩
  · rw [key?_of_model hm he] at hk
    cases hk
  · rw [link?_of_model hm he, hfree] at hl
    cases hl
  · obtain ⟨type, hget, hflavor, _⟩ := (h.storeOf q).type_of_link? hlink
    have hclass : type.className = q.className := by
      -- the slot that the visit opened is the one it filled last
      have hlt := TypeStore.lt_size_of_get? hget
      rw [hstore, TypeStore.size_finish] at hlt
      rw [hstore, TypeStore.get?_finish_self hlt] at hget
      cases hget
      rfl
    obtain ⟨_, m', entity', hmade⟩ := (h.storeOf q).filled_of_get? hget
    obtain rfl : m = m' := Option.some.inj (hm.symm.trans (hclass ▸ hmade.model))
    obtain rfl : entity = entity' := Option.some.inj (he.symm.trans hmade.isEntity)
    exact ⟨type, by rw [request_value c h.numbered, hlink]; exact hget, hclass, hflavor, hmade⟩

/-- **The fields of a type that is compiled.** Whatever was compiled before, a request for an entity whose name has
no type of the flavor gives a type of that class, and there is just one list of fields that the declarations allow:
that of the type. -/
theorem fieldList_compiled (c : Compiler) (requests : List TypeRequest) (q : TypeRequest) {m : Model} {entity : String}
    (hm : c.registry.model? q.className = some m) (he : m.entity = some entity)
    (hfree : ((c.storeAfter requests).handles q.flavor).get? (Text.lowercase entity) = none) :
    ∃ type, ((c.request q).run (c.storeAfter requests)).value.1 = some type ∧
      type.className = q.className ∧ type.flavor = q.flavor ∧
      type.name = (match q.flavor with
        | .output => entity
        | .input => c.inputPrefix ++ entity) ∧
      ∀ fields, FieldList c.registry (c.link? (c.storeAfter (requests ++ [q])) q.flavor) q.flavor m [] m.fields fields ↔
        fields = type.fields := by
  obtain ⟨type, hanswer, hclass, hflavor, hmade⟩ := (settled_storeAfter c requests).request_of_free q hm he hfree
  have hname := hmade.name
  have hlinked := hmade.linked
  have hfields := hmade.fields
  rw [← storeAfter_concat, hflavor] at hlinked hfields
  rw [hflavor] at hname
  refine ⟨type, hanswer, hclass, hflavor, hname, fun fields => ?_⟩
  rw [hfields]
  refine fieldList_iff m.fields [] fields (fun f hf => hf) fun f hf target ht => ?_
  rw [hlinked f hf target ht, isSome_key?]

def personModel : Model := ⟨"Person", some "Person",
  [⟨"id", "id", .primaryKey .float⟩, ⟨"fullName", "name", .column .string⟩,
    ⟨"pet", "pet", .foreignKey "Pet" (some .conventional)⟩]⟩

/-- The type of persons, which a request for pets has not made in this flavor, has a field for the pet and one for its
id. The type of pets, which refers back, is made between the two. -/
theorem person_input_after_pet : ∃ type,
    ((petCompiler.request ⟨.input, "Person"⟩).run (petCompiler.storeAfter [⟨.output, "Pet"⟩])).value.1 = some type ∧
      type.name = "inputPerson" ∧
      type.fields = [⟨"id", "id", .scalar .float⟩, ⟨"name", "fullName", .scalar .string⟩,
        ⟨"pet", "pet", .relation 3 ⟨"Pet", "pet", some "petId"⟩⟩, ⟨"petId", "petId", .scalar .float⟩] := by
  obtain ⟨type, hanswer, _, _, hname, hfields⟩ := fieldList_compiled petCompiler [⟨.output, "Pet"⟩] ⟨.input, "Person"⟩
    (show petCompiler.registry.model? "Person" = some personModel by rfl)
    (show personModel.entity = some "Person" by rfl) (by rfl)
  have hpet : petCompiler.registry.IsEntity "Pet" := by decide
  have hflat : AddsFlat petCompiler.registry .input personModel ["id", "name"] "Pet" (some .conventional) "petId"
      .float :=
    ⟨rfl, by rfl, ⟨_, by rfl, by rfl⟩, by decide, by decide⟩
  refine ⟨type, hanswer, hname, ((hfields _).1 ?_).symm⟩
  exact .cons (.primaryKey rfl) (.cons (.column rfl) (.cons (.relationWithKey rfl hpet (by rfl) hflat) .nil))

end Compiler

end EntityGraph
