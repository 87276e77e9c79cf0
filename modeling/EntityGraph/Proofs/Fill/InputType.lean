import EntityGraph.Proofs.Fill.Reads
import EntityGraph.Proofs.Types.Reachability
/-!
# Input types and what is read

What an input type offers is decided when it is compiled, and what is read of an object when it is filled. If every
foreign key leads to an entity, the two agree: the fields of an input type are named by the keys that the fields of
its model read (`mem_fieldNames_iff_reads`). So they are the keys on which the filled instance depends
(`fieldNames_iff_fill_ne`).
-/

namespace EntityGraph

/-- Two objects have the same under every key but one. -/
def AgreeOff (key : String) (fs gs : List (String × Value)) : Prop :=
  ∀ key', key' ≠ key → Entries.get? fs key' = Entries.get? gs key'

/-- The instance of a class filled from an object. -/
def Registry.fillObject (r : Registry) (className : String) (fs : List (String × Value)) : Option Instance :=
  (r.fill (some (.object fs)) (some className)).value

namespace Compiler

variable {c : Compiler} {s : TypeStore} {flavor : Flavor} {m : Model} {link : String → Option Nat} {f : Field}
  {key : String}

/-! ## What an input type offers -/

/-- What a field adds to a type bears the name of a key that the field reads. -/
theorem reads_of_mem_fieldLayout {done : List CompiledField} {g : CompiledField}
    (h : g ∈ c.fieldLayout flavor m link done f) : c.registry.Reads f g.name := by
  unfold fieldLayout at h
  cases hk : f.kind with
  | primaryKey s => rw [hk] at h; rw [List.mem_singleton.1 h]; exact .inl rfl
  | column s => rw [hk] at h; rw [List.mem_singleton.1 h]; exact .inl rfl
  | foreignKey target idColumn =>
    rw [hk] at h
    dsimp only at h
    split at h
    · cases h
    · rcases mem_relationFields h with rfl | ⟨flat, s, hflat, hs, rfl⟩
      · exact .inl rfl
      · obtain ⟨pk, hpk, _⟩ := Option.bind_eq_some_iff.1 hs
        exact .inr ⟨target, idColumn, hk, by rw [hpk]; rfl, hflat⟩

/-- A field whose target is linked is there under its wire name. -/
theorem exists_wireName_fieldLayout (hl : ∀ target, f.kind.target? = some target → (link target).isSome = true)
    (done : List CompiledField) : ∃ g ∈ c.fieldLayout flavor m link done f, g.name = f.wireName := by
  unfold fieldLayout
  cases hk : f.kind with
  | primaryKey s => exact ⟨_, List.mem_cons_self, rfl⟩
  | column s => exact ⟨_, List.mem_cons_self, rfl⟩
  | foreignKey target idColumn =>
    obtain ⟨handle, hh⟩ := Option.isSome_iff_exists.1 (hl target (by rw [hk]; rfl))
    simp only [hh]
    unfold relationFields
    dsimp only
    split <;> exact ⟨_, List.mem_cons_self, rfl⟩

/-- The flat key of a foreign key to something with a primary key gets a field, unless its name is taken. -/
theorem exists_flatField? {done : List CompiledField} {target : String}
    (hp : (c.registry.primaryKey? target).isSome = true) :
    key ∈ m.fields.map (·.wireName) ∨ ∃ g ∈ done ++ (c.flatField? m done target key).toList, g.name = key := by
  by_cases hwire : key ∈ m.fields.map (·.wireName)
  · exact .inl hwire
  · by_cases hdone : ∃ g ∈ done, g.name = key
    · obtain ⟨g, hg, hname⟩ := hdone
      exact .inr ⟨g, List.mem_append_left _ hg, hname⟩
    · obtain ⟨pk, hpk⟩ := Option.isSome_iff_exists.1 hp
      obtain ⟨s, hs⟩ := Registry.kind_of_primaryKey? hpk
      have hfree : (m.fields.any (·.wireName == key) || done.any (·.name == key)) = false := by
        rw [Bool.or_eq_false_iff, List.any_eq_false, List.any_eq_false]
        refine ⟨fun f hf he => hwire (List.mem_map.2 ⟨f, hf, eq_of_beq he⟩), fun g hg he => hdone ⟨g, hg, eq_of_beq he⟩⟩
      have hflat : c.flatField? m done target key = some ⟨key, key, .scalar s⟩ := by
        unfold flatField?
        rw [hfree, hpk, Option.bind_some, hs]
        rfl
      rw [hflat]
      exact .inr ⟨_, List.mem_append_right _ List.mem_cons_self, rfl⟩

/-- A key that a field reads is a wire name of the model or is done after the field. -/
theorem exists_fieldLayout_of_reads (hl : ∀ target, f.kind.target? = some target → (link target).isSome = true)
    (h : c.registry.Reads f key) (done : List CompiledField) : key ∈ m.fields.map (·.wireName) ∨
      ∃ g ∈ done ++ c.fieldLayout .input m link done f, g.name = key := by
  rcases h with rfl | ⟨target, idColumn, hk, hp, hflat⟩
  · obtain ⟨g, hg, hname⟩ := exists_wireName_fieldLayout hl done
    exact .inr ⟨g, List.mem_append_right _ hg, hname⟩
  · obtain ⟨handle, hh⟩ := Option.isSome_iff_exists.1 (hl target (by rw [hk]; rfl))
    unfold fieldLayout relationFields
    simp only [hk, hh, hflat]
    rw [List.append_cons]
    exact exists_flatField? hp

/-- **An input type offers what the fields of its model read.** -/
theorem mem_layout_iff_reads
    (hl : ∀ f ∈ m.fields, ∀ target, f.kind.target? = some target → (link target).isSome = true) (key : String) :
    key ∈ (c.layout .input m link m.fields []).map (·.name) ↔ ∃ f ∈ m.fields, c.registry.Reads f key := by
  constructor
  · intro h
    obtain ⟨g, hg, rfl⟩ := List.mem_map.1 h
    rcases mem_layout m.fields [] hg with hd | ⟨f, hf, done, hg⟩
    · cases hd
    · exact ⟨f, hf, reads_of_mem_fieldLayout hg⟩
  · rintro ⟨f, hf, hr⟩
    have hwire : key ∈ m.fields.map (·.wireName) → ∃ g ∈ c.layout .input m link m.fields [], g.name = key := by
      intro hw
      obtain ⟨f', hf', rfl⟩ := List.mem_map.1 hw
      refine mem_layout_of_mem_fieldLayout (f := f') (fun done => ?_) m.fields [] hf'
      obtain ⟨g, hg, hname⟩ := exists_wireName_fieldLayout (hl f' hf') done
      exact ⟨g, List.mem_append_right _ hg, hname⟩
    by_cases hw : key ∈ m.fields.map (·.wireName)
    · exact List.mem_map.2 (hwire hw)
    · refine List.mem_map.2 (mem_layout_of_mem_fieldLayout (f := f) (fun done => ?_) m.fields [] hf)
      exact (exists_fieldLayout_of_reads (hl f hf) hr done).resolve_left hw

theorem Settled.madeFrom_of_lookup? (h : c.Settled s) (hd : c.registry.NamesDistinct) {className : String}
    {type : CompiledType} (hl : c.lookup? s className flavor = some type) :
    type.flavor = flavor ∧ type.className = className ∧ ∃ m entity, c.MadeFrom s m entity type := by
  obtain ⟨i, hlink, hget⟩ := Option.bind_eq_some_iff.1 hl
  obtain ⟨type', hget', hflavor, hkey⟩ := h.type_of_link? hlink
  rw [hget] at hget'
  cases hget'
  obtain ⟨key, hk, _⟩ := Option.bind_eq_some_iff.1 hlink
  exact ⟨hflavor, eq_of_key? hd (hkey.trans hk) hk, (h.filled_of_get? hget).2⟩

theorem MadeFrom.mem_fieldNames_iff_reads {entity : String} {type : CompiledType} (hm : c.MadeFrom s m entity type)
    (hflavor : type.flavor = .input) (ht : c.registry.TargetsDeclared) (key : String) :
    key ∈ type.fieldNames ↔ ∃ f ∈ m.fields, c.registry.Reads f key := by
  unfold CompiledType.fieldNames
  rw [hm.fields, hflavor]
  refine mem_layout_iff_reads (fun f hf target htarget => ?_) key
  rw [← hflavor, hm.linked f hf target htarget, isSome_key?]
  exact ht type.className m hm.model f hf target htarget

/-! ## What filling depends on -/

/-- **The fields of an input type are the keys on which the filled instance depends.** Dropping all other keys
changes nothing, and each of them alone makes a difference. -/
theorem fieldNames_iff_fill_ne (c : Compiler) (declarations : List Declaration)
    (hc : c.registry = .ofDeclarations declarations) (hd : c.registry.NamesDistinct)
    (ht : c.registry.TargetsDeclared) (requests : List TypeRequest) (className : String) (type : CompiledType)
    (hl : c.lookup? (c.storeAfter requests) className .input = some type) :
    (∀ key, key ∈ type.fieldNames ↔
      ∃ fs gs, AgreeOff key fs gs ∧ c.registry.fillObject className fs ≠ c.registry.fillObject className gs) ∧
    (∀ fs, c.registry.fillObject className (fs.filter fun e => type.fieldNames.contains e.1) =
      c.registry.fillObject className fs) ∧
    ∀ f ∈ type.fields, ∃ v i j, c.registry.fillObject className [] = some i ∧
      c.registry.fillObject className [(f.name, v)] = some j ∧ i.same j = false := by
  have hfields : c.registry.FieldsDistinct := by
    rw [hc]
    exact Registry.fieldsDistinct_ofDeclarations declarations
  obtain ⟨hflavor, rfl, m, entity, hm⟩ := (settled_storeAfter c requests).madeFrom_of_lookup? hd hl
  have hreads := hm.mem_fieldNames_iff_reads hflavor ht
  have hcongr : ∀ fs gs : List (String × Value),
      (∀ key ∈ type.fieldNames, Entries.get? fs key = Entries.get? gs key) →
        c.registry.fillObject type.className fs = c.registry.fillObject type.className gs := fun fs gs h =>
    Registry.fillValue_congr hfields hm.model rfl rfl fun f hf key hr => h key ((hreads key).2 ⟨f, hf, hr⟩)
  -- each key makes a difference already where it is the only one
  have hsingle : ∀ key ∈ type.fieldNames, ∃ i j, c.registry.fillObject type.className [] = some i ∧
      c.registry.fillObject type.className [(key, .boolean true)] = some j ∧ i ≠ j ∧ i.same j = false := by
    intro key hkey
    obtain ⟨f, hf, hr⟩ := (hreads key).1 hkey
    exact Registry.fillValue_single hfields hm.model hf hr rfl
  refine ⟨fun key => ⟨fun hkey => ?_, ?_⟩, fun fs => hcongr _ _ fun key hkey => ?_, fun f hf => ?_⟩
  · obtain ⟨i, j, hi, hj, hne, _⟩ := hsingle key hkey
    refine ⟨[], [(key, .boolean true)], fun key' hk => (if_neg hk.symm).symm, fun heq => hne ?_⟩
    rw [hi, hj] at heq
    exact Option.some.inj heq
  · rintro ⟨fs, gs, hagree, hne⟩
    by_contra hkey
    exact hne (hcongr fs gs fun key' hkey' => hagree key' fun he => hkey (by rw [← he]; exact hkey'))
  · rw [Entries.get?_filter, if_pos (by simpa using hkey)]
  · obtain ⟨i, j, hi, hj, _, hsame⟩ := hsingle f.name (List.mem_map_of_mem hf)
    exact ⟨.boolean true, i, j, hi, hj, hsame⟩

/-- A person's pet may be given by its id. -/
theorem pet_id_read : petCompiler.registry = .ofDeclarations petDeclarations ∧ petCompiler.registry.NamesDistinct ∧
    petCompiler.registry.TargetsDeclared ∧
    ∃ type, petCompiler.lookup? (petCompiler.storeAfter [⟨.input, "Pet"⟩]) "Person" .input = some type ∧
      type.fieldNames = ["id", "name", "pet", "petId"] ∧
      ∃ fs gs, AgreeOff "petId" fs gs ∧
        petCompiler.registry.fillObject "Person" fs ≠ petCompiler.registry.fillObject "Person" gs := by
  have hd : petCompiler.registry.NamesDistinct := by decide
  have ht : petCompiler.registry.TargetsDeclared := by decide
  have hl : (petCompiler.lookup? (petCompiler.storeAfter [⟨.input, "Pet"⟩]) "Person" .input).map (·.fieldNames) =
      some ["id", "name", "pet", "petId"] := by decide
  obtain ⟨type, htype, hnames⟩ := Option.map_eq_some_iff.1 hl
  have hspec := fieldNames_iff_fill_ne petCompiler petDeclarations rfl hd ht [⟨.input, "Pet"⟩] "Person" type htype
  exact ⟨rfl, hd, ht, type, htype, hnames, (hspec.1 "petId").1 (by rw [hnames]; decide)⟩

end Compiler

end EntityGraph
