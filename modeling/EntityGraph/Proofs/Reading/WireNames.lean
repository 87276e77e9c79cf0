import EntityGraph.Proofs.Reading.ForeignIds
import EntityGraph.Proofs.Reading.ScalarFields
import EntityGraph.Proofs.Types.FieldList
/-!
# Parents keyed by wire names

A handler may answer with an instance, whose keys are the names of fields, or with an object that has the same under
wire names (`Instance.outside`). Scalar fields look under both, and if no two wire names clash they read the same of
either (`read?_outside`).

A relation looks under one key for each place. What it reads under the name of a field that is called differently
outside is not found in an object keyed by wire names, and what it reads under such a wire name is not found in an
instance. So a relation resolves alike just when neither its own key nor its flat key is called so
(`resolved_outside_iff`).
-/

namespace EntityGraph

/-! ## Names inside and outside -/

/-- What a name of an instance's fields is replaced by outside. -/
def Model.outsideName (m : Model) (name : String) : String := ((m.field? name).map (·.wireName)).getD name

/-- The instance as an object with each declared name replaced by its wire name. -/
def Instance.outside (i : Instance) (m : Model) : Value := .object (i.fields.map fun e => (m.outsideName e.1, e.2))

/-- An instance of the model's class whose keys stay apart outside. -/
structure Instance.StaysApart (i : Instance) (m : Model) : Prop where
  className : i.className = m.className
  nodup : (i.fieldNames.map m.outsideName).Nodup

/-- No two fields have one name inside or outside, and none is called outside like another one inside. -/
structure Model.NamesApart (m : Model) : Prop where
  names : (m.fields.map (·.name)).Nodup
  wireNames : (m.fields.map (·.wireName)).Nodup
  crosses : ∀ f ∈ m.fields, ¬ m.Crosses f

/-- No field of the model has one name inside and another outside of which this key is either. -/
def Model.Keeps (m : Model) (key : String) : Prop :=
  ∀ f ∈ m.fields, key = f.name ∨ key = f.wireName → f.wireName = f.name

/-- Whatever the relation reads of a parent is called the same inside and outside. -/
def Relation.ReadsKept (relation : Relation) (m : Model) : Prop :=
  m.Keeps relation.fieldKey ∧ ∀ column, relation.idColumn = some column → m.Keeps column

namespace Model

variable {m : Model} {f : Field} {name key : String}

theorem field?_of_mem (hn : (m.fields.map (·.name)).Nodup) (hf : f ∈ m.fields) : m.field? f.name = some f := by
  unfold field?
  have hsome : (m.fields.find? (·.name == f.name)).isSome = true := List.find?_isSome.2 ⟨f, hf, beq_self_eq_true _⟩
  obtain ⟨g, hg⟩ := Option.isSome_iff_exists.1 hsome
  have hname := List.find?_some hg
  rw [beq_iff_eq] at hname
  rw [hg, List.inj_on_of_nodup_map hn (List.mem_of_find?_eq_some hg) hf hname]

theorem outsideName_of_mem (hn : (m.fields.map (·.name)).Nodup) (hf : f ∈ m.fields) :
    m.outsideName f.name = f.wireName := by
  unfold outsideName
  rw [field?_of_mem hn hf]
  rfl

theorem outsideName_of_not_mem (h : name ∉ m.fields.map (·.name)) : m.outsideName name = name := by
  have hnone : m.field? name = none := by
    unfold field?
    rw [List.find?_eq_none]
    intro f hf he
    exact h (List.mem_map.2 ⟨f, hf, beq_iff_eq.1 he⟩)
  unfold outsideName
  rw [hnone]
  rfl

/-- A name is that of a field and replaced by its wire name, or it is left alone. -/
theorem outsideName_cases (hn : (m.fields.map (·.name)).Nodup) (name : String) :
    (∃ f ∈ m.fields, f.name = name ∧ m.outsideName name = f.wireName) ∨
      name ∉ m.fields.map (·.name) ∧ m.outsideName name = name := by
  by_cases h : name ∈ m.fields.map (·.name)
  · obtain ⟨f, hf, rfl⟩ := List.mem_map.1 h
    exact .inl ⟨f, hf, rfl, outsideName_of_mem hn hf⟩
  · exact .inr ⟨h, outsideName_of_not_mem h⟩

/-- Outside nothing else comes to be called by a key that is kept. -/
theorem Keeps.outsideName_eq_iff (h : m.Keeps key) (hn : (m.fields.map (·.name)).Nodup) (name : String) :
    m.outsideName name = key ↔ name = key := by
  rcases outsideName_cases hn name with ⟨f, hf, rfl, hout⟩ | ⟨_, hout⟩
  · rw [hout]
    exact ⟨fun hk => (h f hf (.inr hk.symm)).symm.trans hk, fun hk => (h f hf (.inl hk.symm)).trans hk⟩
  · rw [hout]

/-- Outside no name is that of a field which is called differently there, if no wire names clash. -/
theorem NamesApart.outsideName_ne (h : m.NamesApart) (hf : f ∈ m.fields) (hne : f.wireName ≠ f.name) (name : String) :
    m.outsideName name ≠ f.name := by
  intro hname
  have hmem : f.name ∈ m.fields.map (·.name) := List.mem_map_of_mem hf
  rcases outsideName_cases h.names name with ⟨g, hg, rfl, hout⟩ | ⟨hno, hout⟩
  · rw [hout] at hname
    by_cases hsame : g.wireName = g.name
    · rw [List.inj_on_of_nodup_map h.names hg hf (hsame.symm.trans hname)] at hsame
      exact hne hsame
    · exact h.crosses g hg ⟨hsame, by rwa [hname]⟩
  · rw [hout] at hname
    exact hno (by rwa [hname])

/-- Outside a wire name is that of its own field, or of a key that was called so before. -/
theorem NamesApart.outsideName_eq_iff (h : m.NamesApart) (hf : f ∈ m.fields) (name : String) :
    m.outsideName name = f.wireName ↔ name = f.name ∨ name = f.wireName := by
  rcases outsideName_cases h.names name with ⟨g, hg, rfl, hout⟩ | ⟨hno, hout⟩
  · rw [hout]
    constructor
    · intro hwire
      exact .inl (congrArg Field.name (List.inj_on_of_nodup_map h.wireNames hg hf hwire))
    · rintro (hname | hname)
      · exact congrArg Field.wireName (List.inj_on_of_nodup_map h.names hg hf hname)
      · -- the wire name of a field is another field's name only if it is its own
        by_cases hsame : f.wireName = f.name
        · exact congrArg Field.wireName (List.inj_on_of_nodup_map h.names hg hf (hname.trans hsame))
        · exact absurd ⟨hsame, hname ▸ List.mem_map_of_mem hg⟩ (h.crosses f hf)
  · rw [hout]
    exact ⟨.inr, fun h => h.resolve_left fun he => hno (he ▸ List.mem_map_of_mem hf)⟩

theorem NamesApart.keeps_name_iff (h : m.NamesApart) (hf : f ∈ m.fields) : m.Keeps f.name ↔ f.wireName = f.name := by
  refine ⟨fun hkept => hkept f hf (.inl rfl), fun hsame g hg hname => ?_⟩
  rcases hname with hname | hname
  · rwa [← List.inj_on_of_nodup_map h.names hf hg hname]
  · by_contra hne
    exact h.crosses g hg ⟨hne, hname ▸ List.mem_map_of_mem hf⟩

end Model

/-! ## Reading objects keyed by wire names -/

/-- If just the entries under one key get another, they are read under that. -/
theorem Entries.get?_map_key {α : Type} {rename : String → String} {key key' : String} : ∀ {d : Entries α},
    (∀ name ∈ d.keys, rename name = key' ↔ name = key) →
      Entries.get? (d.map fun e => (rename e.1, e.2)) key' = d.get? key
  | [], _ => rfl
  | (k, a) :: d, h => by
    have hhead := h k List.mem_cons_self
    have hrest := get?_map_key (d := d) fun name hname => h name (List.mem_cons_of_mem _ hname)
    rw [List.map_cons, get?, get?, hrest]
    by_cases hk : k = key
    · rw [if_pos hk, if_pos (hhead.2 hk)]
    · rw [if_neg hk, if_neg (hk ∘ hhead.1)]

namespace Instance

variable {i : Instance} {m : Model} {f : Field} {key : String}

theorem get?_outside_of_keeps (h : m.Keeps key) (hn : (m.fields.map (·.name)).Nodup) (i : Instance) :
    (i.outside m).get? key = i.get? key :=
  Entries.get?_map_key fun name _ => h.outsideName_eq_iff hn name

theorem keys_outside (i : Instance) (m : Model) :
    Entries.keys (i.fields.map fun e => (m.outsideName e.1, e.2)) = i.fieldNames.map m.outsideName := by
  unfold Entries.keys fieldNames Entries.keys
  rw [List.map_map, List.map_map]
  rfl

theorem get?_outside_name (h : m.NamesApart) (hf : f ∈ m.fields) (hne : f.wireName ≠ f.name) (i : Instance) :
    (i.outside m).get? f.name = none := by
  refine (Entries.get?_eq_none_iff _ _).2 ?_
  rw [keys_outside]
  intro hmem
  obtain ⟨name, _, hname⟩ := List.mem_map.1 hmem
  exact h.outsideName_ne hf hne name hname

/-- Under a wire name is what was under the name, or else what was under the wire name itself. -/
theorem get?_outside_wireName (h : m.NamesApart) (hf : f ∈ m.fields) (hi : i.StaysApart m) :
    (i.outside m).get? f.wireName = (i.get? f.name).or (i.get? f.wireName) := by
  have hout := h.outsideName_eq_iff hf
  cases hget : i.get? f.name with
  | none =>
    have hunset : f.name ∉ i.fields.keys := (Entries.get?_eq_none_iff _ _).1 hget
    have honly : ∀ name ∈ i.fields.keys, m.outsideName name = f.wireName ↔ name = f.wireName := by
      intro name hname
      rw [hout, or_iff_right fun he : name = f.name => hunset (he ▸ hname)]
    exact Entries.get?_map_key honly
  | some v =>
    have hset : f.name ∈ i.fields.keys := Entries.mem_keys_of_get? hget
    -- under the wire name itself there was nothing, or the two would be one
    have honly : ∀ name ∈ i.fields.keys, m.outsideName name = f.wireName ↔ name = f.name := by
      intro name hname
      refine ⟨fun hwire => ?_, fun he => (hout name).2 (.inl he)⟩
      exact List.inj_on_of_nodup_map hi.nodup hname hset (hwire.trans ((hout f.name).2 (.inl rfl)).symm)
    exact (Entries.get?_map_key honly).trans hget

end Instance

/-! ## Scalar fields -/

/-- **A scalar field reads the same inside and outside.** -/
theorem CompiledField.read?_outside {m : Model} {f : Field} {i : Instance} (h : m.NamesApart) (hf : f ∈ m.fields)
    (hi : i.StaysApart m) {g : CompiledField} (hname : g.name = f.wireName) (hkey : g.key = f.name) :
    g.read? (i.outside m) = g.read? i.toValue := by
  have hwire := Instance.get?_outside_wireName h hf hi
  rw [CompiledField.read?_toValue]
  unfold CompiledField.read?
  rw [hname, hkey]
  by_cases hsame : f.wireName = f.name
  · rw [hsame] at hwire ⊢
    rw [hwire]
    cases i.get? f.name <;> rfl
  · rw [Instance.get?_outside_name h hf hsame, hwire]

/-! ## Relations -/

namespace Relation

variable {r : Registry} {relation : Relation} {pk : Field} {m : Model} {v : Value} {key fieldKey : String}
  {idColumn : Option String}

theorem foreignId?_single (hv : v.isNull = false) (pk : Field) (key fieldKey : String) (idColumn : Option String) :
    Registry.foreignId? pk (.object [(key, v)]) fieldKey idColumn =
      if idColumn = some key then some v else if key = fieldKey then Registry.nestedId? pk v else none := by
  have hget : ∀ key', (Value.object [(key, v)]).get? key' = if key = key' then some v else none := fun _ => rfl
  unfold Registry.foreignId?
  by_cases hflat : idColumn = some key
  · rw [if_pos hflat, hflat, Option.bind_some, Value.present?_single hv]
  · have hnone : idColumn.bind (Value.object [(key, v)]).present? = none := by
      rw [Option.bind_eq_none_iff]
      intro column hcolumn
      unfold Value.present?
      rw [hget, if_neg fun he => hflat (by rw [hcolumn, he])]
      rfl
    rw [if_neg hflat, hnone, hget]
    dsimp only
    split <;> rfl

theorem stub_resolve (r : Registry) (foreign : ForeignResolver) (relation : Relation) (parent : Value) :
    (relation.resolve r foreign parent).value.stub = (r.primaryKey? relation.target).bind fun pk =>
      (Registry.foreignId? pk parent relation.fieldKey relation.idColumn).map (Registry.stub relation.target pk) :=
  Registry.value_resolveForeignKey r relation.target parent relation.fieldKey relation.idColumn

theorem stub_injective (target : String) (pk : Field) : Function.Injective (Registry.stub target pk) := by
  intro a b h
  cases h
  rfl

/-- The id is the same if nothing that is read is called otherwise. -/
theorem foreignId?_outside (h : relation.ReadsKept m) (hn : (m.fields.map (·.name)).Nodup) (pk : Field) (i : Instance) :
    Registry.foreignId? pk (i.outside m) relation.fieldKey relation.idColumn =
      Registry.foreignId? pk i.toValue relation.fieldKey relation.idColumn := by
  have hnested : (i.outside m).get? relation.fieldKey = i.toValue.get? relation.fieldKey :=
    Instance.get?_outside_of_keeps h.1 hn i
  have hflat : relation.idColumn.bind (i.outside m).present? = relation.idColumn.bind i.toValue.present? := by
    refine Option.bind_congr fun column hcolumn => ?_
    unfold Value.present?
    rw [Instance.get?_outside_of_keeps (h.2 column hcolumn) hn i]
    rfl
  unfold Registry.foreignId?
  rw [hflat, hnested]

/-- **A relation all of whose keys are kept resolves alike**, with the same notes. -/
theorem resolve_outside (h : (r.primaryKey? relation.target).isSome = true → relation.ReadsKept m)
    (hn : (m.fields.map (·.name)).Nodup) (foreign : ForeignResolver) (i : Instance) :
    relation.resolve r foreign (i.outside m) = relation.resolve r foreign i.toValue := by
  unfold resolve Registry.resolveForeignKey
  cases hpk : r.primaryKey? relation.target with
  | none => rfl
  | some pk =>
    rw [hpk] at h
    simp only [foreignId?_outside (h rfl) hn]

/-- A relation with a key that is not kept sees one field inside and not outside, or the other way. -/
theorem exists_unlike (h : ¬ relation.ReadsKept m) (hn : (m.fields.map (·.name)).Nodup)
    (hpk : r.primaryKey? relation.target = some pk) (foreign : ForeignResolver) :
    ∃ i : Instance, i.StaysApart m ∧ (relation.resolve r foreign (i.outside m)).value.stub ≠
      (relation.resolve r foreign i.toValue).value.stub := by
  obtain ⟨f, hf, hne, hread⟩ : ∃ f ∈ m.fields, f.wireName ≠ f.name ∧
      ((relation.fieldKey = f.name ∨ relation.fieldKey = f.wireName) ∨
        relation.idColumn = some f.name ∨ relation.idColumn = some f.wireName) := by
    by_contra hno
    push Not at hno
    refine h ⟨fun f hf hkey => ?_, fun column hcolumn f hf hkey => ?_⟩
    · by_contra hne
      exact hkey.elim (hno f hf hne).1.1 (hno f hf hne).1.2
    · by_contra hne
      exact hkey.elim (fun he => (hno f hf hne).2.1 (he ▸ hcolumn)) fun he => (hno f hf hne).2.2 (he ▸ hcolumn)
  -- a value that is one id under the flat key and holds another under the relation's own
  obtain ⟨v, hv, hid, hother⟩ : ∃ v : Value, v.isNull = false ∧
      Registry.nestedId? pk v = some (.boolean true) ∧ v ≠ .boolean true :=
    ⟨.object [(pk.name, .boolean true)], rfl, Registry.nestedId?_of_present? (Value.present?_single rfl pk.name), nofun⟩
  let i : Instance := ⟨m.className, [(f.name, v)]⟩
  have hout : i.outside m = .object [(f.wireName, v)] := by
    unfold Instance.outside
    rw [List.map_singleton, Model.outsideName_of_mem hn hf]
  refine ⟨i, ⟨rfl, List.nodup_singleton _⟩, fun hsame => ?_⟩
  rw [stub_resolve, stub_resolve, hpk, Option.bind_some, Option.bind_some, hout] at hsame
  have hids := Option.map_injective (stub_injective _ _) hsame
  have hin : i.toValue = .object [(f.name, v)] := rfl
  rw [hin, foreignId?_single hv, foreignId?_single hv, hid] at hids
  by_cases hname : relation.idColumn = some f.name
  · have hwire : relation.idColumn ≠ some f.wireName := fun he => hne (Option.some.inj (he.symm.trans hname))
    rw [if_neg hwire, if_pos hname] at hids
    split at hids
    · exact hother (Option.some.inj hids).symm
    · cases hids
  by_cases hwire : relation.idColumn = some f.wireName
  · rw [if_pos hwire, if_neg hname] at hids
    split at hids
    · exact hother (Option.some.inj hids)
    · cases hids
  -- no flat key has a part in this, so the key of the relation is the one that is called so
  rw [if_neg hwire, if_neg hname] at hids
  rcases hread with (hkey | hkey) | hflat | hflat
  · rw [if_neg fun he => hne (he.trans hkey), if_pos hkey.symm] at hids
    cases hids
  · rw [if_pos hkey.symm, if_neg fun he => hne (hkey.symm.trans he.symm)] at hids
    cases hids
  · exact hname hflat
  · exact hwire hflat

/-- **A relation hands over the same stub inside and outside** just when its keys are kept, or its target has no
primary key. -/
theorem same_stub_iff (hn : (m.fields.map (·.name)).Nodup) (r : Registry) (relation : Relation) :
    (∀ i : Instance, i.StaysApart m → ∀ foreign, (relation.resolve r foreign (i.outside m)).value.stub =
      (relation.resolve r foreign i.toValue).value.stub) ↔
        ((r.primaryKey? relation.target).isSome = true → relation.ReadsKept m) := by
  constructor
  · intro hsame hsome
    obtain ⟨pk, hpk⟩ := Option.isSome_iff_exists.1 hsome
    by_contra hno
    obtain ⟨i, hi, hunlike⟩ := exists_unlike hno hn hpk fun _ => none
    exact hunlike (hsame i hi _)
  · intro hkept i _ foreign
    rw [resolve_outside hkept hn]

end Relation

/-! ## Fields of a compiled type -/

namespace Compiler

/-- **Parents keyed by wire names.** Let the wire names of a model be distinct, and none another field's name. Then
every scalar field of its output type reads the same of an instance and of its object outside. A relation hands over
the same stub just when its own name is the same outside and its flat key is neither the name nor the wire name of a
field that is called differently there (or if its target has no primary key, and there are no stubs); and then it has
the same result with the same notes. -/
theorem resolved_outside_iff (declarations : List Declaration) (inputPrefix : String) (requests : List TypeRequest)
    {type : CompiledType} {m : Model}
    (ht : type ∈ ((Compiler.mk (.ofDeclarations declarations) inputPrefix).storeAfter requests).types)
    (hflavor : type.flavor = .output) (hm : (Registry.ofDeclarations declarations).model? type.className = some m)
    (hwire : (m.fields.map (·.wireName)).Nodup) (hcross : ∀ f ∈ m.fields, ¬ m.Crosses f) :
    (∀ g ∈ type.fields, ∀ scalar, g.type = .scalar scalar → ∀ i : Instance, i.StaysApart m →
      g.read? (i.outside m) = g.read? i.toValue) ∧
    ∀ g ∈ type.fields, ∀ handle relation, g.type = .relation handle relation →
      let r := Registry.ofDeclarations declarations
      let kept := (r.primaryKey? relation.target).isSome = true →
        g.name = g.key ∧ ∀ column, relation.idColumn = some column → m.Keeps column
      ((∀ i : Instance, i.StaysApart m → ∀ foreign, (relation.resolve r foreign (i.outside m)).value.stub =
        (relation.resolve r foreign i.toValue).value.stub) ↔ kept) ∧
      (kept → ∀ (i : Instance) foreign, relation.resolve r foreign (i.outside m) =
        relation.resolve r foreign i.toValue) := by
  have hnames : m.NamesApart :=
    ⟨Registry.fieldsDistinct_ofDeclarations declarations type.className m hm, hwire, hcross⟩
  obtain ⟨i, hi⟩ := TypeStore.mem_types_iff.1 ht
  obtain ⟨_, own, entity, hmade⟩ := (settled_storeAfter _ requests).filled_of_get? hi
  obtain rfl : own = m := Option.some.inj (hmade.model.symm.trans hm)
  have hfields := hmade.fields
  rw [hflavor] at hfields
  refine ⟨fun g hg scalar htype i hi => ?_, fun g hg handle relation htype => ?_⟩
  · rw [hfields] at hg
    obtain ⟨f, hf, _, rfl⟩ := scalar_mem_layout_iff.1 ⟨hg, htype⟩
    exact CompiledField.read?_outside hnames hf hi rfl rfl
  · rw [hfields] at hg
    obtain ⟨f, hf, _, hname, hkey, hfieldKey⟩ := relation_of_mem_layout hg htype
    intro r kept
    have hkept : kept ↔ ((r.primaryKey? relation.target).isSome = true → relation.ReadsKept own) := by
      unfold Relation.ReadsKept
      rw [hfieldKey, hnames.keeps_name_iff hf, ← hname, ← hkey]
    rw [hkept]
    exact ⟨Relation.same_stub_iff hnames.names r relation,
      fun h i foreign => Relation.resolve_outside h hnames.names foreign i⟩

def personType : CompiledType := ⟨0, "Person", "Person", .output, [
  ⟨"id", "id", .scalar .float⟩,
  ⟨"name", "fullName", .scalar .string⟩,
  ⟨"pet", "pet", .relation 1 ⟨"Pet", "pet", some "petId"⟩⟩]⟩

/-- The full name of a person is called `name` outside. The pet is called the same, and no field is called like its flat
key, so that persons resolve alike. -/
theorem persons_resolve_alike :
    personType ∈ (petCompiler.storeAfter [⟨.output, "Person"⟩]).types ∧ personType.flavor = .output ∧
    petCompiler.registry.model? "Person" = some personModel ∧ (personModel.fields.map (·.wireName)).Nodup ∧
    (∀ f ∈ personModel.fields, ¬ personModel.Crosses f) ∧
    (∀ g ∈ personType.fields, ∀ scalar, g.type = .scalar scalar → ∀ i : Instance, i.StaysApart personModel →
      g.read? (i.outside personModel) = g.read? i.toValue) ∧
    ∀ (i : Instance) foreign,
      (Relation.mk "Pet" "pet" (some "petId")).resolve petCompiler.registry foreign (i.outside personModel) =
        (Relation.mk "Pet" "pet" (some "petId")).resolve petCompiler.registry foreign i.toValue := by
  have htype : personType ∈ (petCompiler.storeAfter [⟨.output, "Person"⟩]).types := by decide
  have hmodel : petCompiler.registry.model? "Person" = some personModel := by decide
  have hwire : (personModel.fields.map (·.wireName)).Nodup := by decide
  have hcross : ∀ f ∈ personModel.fields, ¬ personModel.Crosses f := by decide
  obtain ⟨hscalars, hrelations⟩ :=
    resolved_outside_iff petDeclarations "input" [⟨.output, "Person"⟩] htype rfl hmodel hwire hcross
  have hkept : ∀ f ∈ personModel.fields, "petId" = f.name ∨ "petId" = f.wireName → f.wireName = f.name := by decide
  have hpet : CompiledField.mk "pet" "pet" (.relation 1 ⟨"Pet", "pet", some "petId"⟩) ∈ personType.fields := by decide
  refine ⟨htype, rfl, hmodel, hwire, hcross, hscalars, (hrelations _ hpet _ _ rfl).2 fun _ => ⟨rfl, ?_⟩⟩
  rintro column ⟨⟩
  exact hkept

/-! ## A foreign key that is called differently outside -/

/-- The pet of a person is called `animal` outside. -/
def animalDeclarations : List Declaration := [
  .entity "Pet" none,
  .field "Pet" "id" (.primaryKey .int) none,
  .entity "Person" none,
  .field "Person" "id" (.primaryKey .int) none,
  .field "Person" "pet" (.foreignKey "Pet" none) (some "animal")]

/-- The pet of a person is found under its name, and not under its wire name. -/
theorem animal_unseen :
    let c : Compiler := ⟨.ofDeclarations animalDeclarations, "input"⟩
    let pet : Value := .object [("id", .number (.int 7))]
    let i : Instance := ⟨"Person", [("pet", pet)]⟩
    let relation : Relation := ⟨"Pet", "pet", none⟩
    ∃ m type handle, c.registry.model? "Person" = some m ∧ (m.fields.map (·.wireName)).Nodup ∧
      (∀ f ∈ m.fields, ¬ m.Crosses f) ∧ i.StaysApart m ∧ i.outside m = .object [("animal", pet)] ∧
      c.lookup? (c.storeAfter [⟨.output, "Person"⟩]) "Person" .output = some type ∧
      ⟨"animal", "pet", .relation handle relation⟩ ∈ type.fields ∧
      ∀ foreign, (relation.resolve c.registry foreign i.toValue).value.stub =
          some ⟨"Pet", [("id", .number (.int 7))]⟩ ∧
        (relation.resolve c.registry foreign (i.outside m)).value.stub = none := by
  intro c pet i relation
  refine ⟨_, _, 1, rfl, ?_, ?_, ⟨rfl, ?_⟩, rfl, rfl, ?_, fun foreign => ⟨rfl, rfl⟩⟩
  · decide
  · decide
  · decide
  · decide

end Compiler

end EntityGraph
