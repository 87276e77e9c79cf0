import EntityGraph.Proofs.Fill.Reads
import EntityGraph.Proofs.Fill.RoundTrip
import EntityGraph.Proofs.Fill.Shape
import EntityGraph.Proofs.Types.FieldList
/-!
# Ids in either encoding

A relation is given by its id alone in two ways: flat, under the key of the id column, or as an object with the id
under the wire name of the target's primary key. The one is filled as a stub, the other as an instance of the target
that may have more fields, but the id that is found in them is the same (`fill_either_encoding`).

A flat id is meant for one relation, but nothing keeps its key from being read by others. Two foreign keys to one
target have one conventional key, and a key may also be called like a relation; then a single id sets all of them
(`flat_id_sets_both`). What it sets are just the foreign keys that read its key (`fill_flat_id`).
-/

namespace EntityGraph

namespace Value

variable {fs : Entries Value} {key key' : String} {v : Value}

theorem present?_insert_self (hv : v.isNull = false) : (object (fs.insert key v)).present? key = some v :=
  present?_eq_some_iff.2 ⟨Entries.get?_insert_self fs key v, hv⟩

theorem present?_insert_of_ne (h : key ≠ key') :
    (object (fs.insert key v)).present? key' = (object fs).present? key' := by
  unfold present?
  rw [get?, Entries.get?_insert_of_ne fs v h]
  rfl

theorem present?_single_of_ne (h : key ≠ key') : (object [(key, v)]).present? key' = none := by
  unfold present?
  rw [get?, Entries.get?, if_neg h]
  rfl

theorem present?_single_of_null (hv : v.isNull = true) (key key' : String) :
    (object [(key, v)]).present? key' = none := by
  by_cases h : key = key'
  · subst h
    unfold present?
    rw [get?, Entries.get?, if_pos rfl]
    simp [Option.filter, hv]
  · exact present?_single_of_ne h

end Value

namespace Registry

variable {r : Registry} {raw : Value} {className target key : String} {m : Model} {f pk : Field}
  {idColumn : Option IdColumn} {v : Value}

/-! ## What a foreign key is filled with -/

theorem setting?_of_foreignKey (hk : f.kind = .foreignKey target idColumn) :
    r.setting? raw f = some ((r.related? raw f.wireName target idColumn).elim .null Instance.toValue) := by
  simp only [setting?, hk]
  cases r.related? raw f.wireName target idColumn with
  | none => rfl
  | some j => rfl

theorem related?_of_flat (hn : raw.present? f.wireName = none) (hpk : r.primaryKey? target = some pk)
    (hkey : idColumn.bind (r.flatIdKey? target) = some key) (hv : raw.present? key = some v) :
    r.related? raw f.wireName target idColumn = some (stub target pk v) := by
  unfold related? flatStub?
  rw [hn]
  simp only [hpk, hkey, hv, Option.bind_some, Option.map_some]

/-- **An object with an id is filled as an instance with this id**, whatever else it may set. -/
theorem fillValue_of_id (hd : r.FieldsDistinct) (hpk : r.primaryKey? target = some pk) (v : Value) :
    ∃ related : Instance, (r.fillValue (.object [(pk.wireName, v)]) target).value = some related ∧
      related.className = target ∧ related.get? pk.name = some v := by
  refine ⟨_, fillValue_fieldsOf hd rfl, rfl, ?_⟩
  obtain ⟨s, hkind⟩ := kind_of_primaryKey? hpk
  have hset : r.setting? (.object [(pk.wireName, v)]) pk = some v := by
    rw [setting?_of_column (by rw [hkind]; rfl)]
    exact if_pos rfl
  exact (get?_settings (nodup_fieldsOf hd target) (mem_fieldsOf_of_primaryKey? hpk)).trans hset

theorem related?_of_nested {nested : Value} (hn : raw.present? f.wireName = some nested) :
    r.related? raw f.wireName target idColumn = (r.fillValue nested target).value := by
  unfold related?
  rw [hn]

theorem get?_of_fill (hd : r.FieldsDistinct) (hm : r.model? className = some m) (fs : Entries Value) :
    ∃ i : Instance, (r.fill (some (.object fs)) (some className)).value = some i ∧
      ∀ f ∈ m.fields, i.get? f.name = r.setting? (.object fs) f :=
  ⟨_, fillValue_value hd rfl hm, fun _ hf => get?_settings (hd className m hm) hf⟩

/-! ## The same id in either encoding -/

/-- **Both encodings of a relation give the same id.** Of an object that has nothing for a foreign key, the id may be
put under the flat key or, in an object of its own, under the wire name of the relation. Both fill the relation with
this id, the first with nothing else, and either instance is resolved to the same stub. -/
theorem fill_either_encoding (declarations : List Declaration) {className target key : String} {m : Model}
    {f pk : Field} {idColumn : IdColumn} {fs : Entries Value} {v : Value}
    (hm : (ofDeclarations declarations).model? className = some m) (hf : f ∈ m.fields)
    (hk : f.kind = .foreignKey target (some idColumn))
    (hkey : (ofDeclarations declarations).flatIdKey? target idColumn = some key) (hne : key ≠ f.wireName)
    (hpk : (ofDeclarations declarations).primaryKey? target = some pk) (hv : v.isNull = false)
    (hfs : (Value.object fs).present? f.wireName = none) :
    let r := ofDeclarations declarations
    ∃ i j related : Instance,
      (r.fill (some (.object (fs.insert key v))) (some className)).value = some i ∧
      (r.fill (some (.object (fs.insert f.wireName (.object [(pk.wireName, v)])))) (some className)).value = some j ∧
      i.get? f.name = some (.object [(pk.name, v)]) ∧
      (j.get? f.name = some related.toValue ∧ related.className = target ∧ related.get? pk.name = some v) ∧
      r.resolveForeignKey target i.toValue f.name none = pure (some (stub target pk v)) ∧
      r.resolveForeignKey target j.toValue f.name none = pure (some (stub target pk v)) := by
  intro r
  have hd : r.FieldsDistinct := fieldsDistinct_ofDeclarations declarations
  obtain ⟨i, hi, higet⟩ := get?_of_fill hd hm (fs.insert key v)
  obtain ⟨j, hj, hjget⟩ := get?_of_fill hd hm (fs.insert f.wireName (.object [(pk.wireName, v)]))
  obtain ⟨related, hrelated, hclass, hid⟩ := fillValue_of_id hd hpk v
  -- the flat id makes a stub, since there is nothing nested
  have hflat : i.get? f.name = some (.object [(pk.name, v)]) := by
    have habsent : (Value.object (fs.insert key v)).present? f.wireName = none :=
      (Value.present?_insert_of_ne hne).trans hfs
    have hexpands : (some idColumn).bind (r.flatIdKey? target) = some key := hkey
    rw [higet f hf, setting?_of_foreignKey hk, related?_of_flat habsent hpk hexpands (Value.present?_insert_self hv),
      Option.elim_some]
    rfl
  have hnested : j.get? f.name = some related.toValue := by
    rw [hjget f hf, setting?_of_foreignKey hk, related?_of_nested (Value.present?_insert_self rfl), hrelated,
      Option.elim_some]
  refine ⟨i, j, related, hi, hj, hflat, ⟨hnested, hclass, hid⟩, ?_, ?_⟩
  · exact resolveForeignKey_of_nested hpk hflat (Value.present?_single hv pk.name)
  · exact resolveForeignKey_of_nested hpk hnested (Value.present?_eq_some_iff.2 ⟨hid, hv⟩)

/-- The pet of a person whom nothing else is known of. -/
theorem pet_of_person_either_encoding :
    let r := ofDeclarations petDeclarations
    let stub : Instance := ⟨"Pet", [("id", .number (.int 7))]⟩
    ∃ i j : Instance,
      (r.fill (some (.object [("pet", .null), ("petId", .number (.int 7))])) (some "Person")).value = some i ∧
      (r.fill (some (.object [("pet", .object [("id", .number (.int 7))])])) (some "Person")).value = some j ∧
      r.resolveForeignKey "Pet" i.toValue "pet" none = pure (some stub) ∧
      r.resolveForeignKey "Pet" j.toValue "pet" none = pure (some stub) := by
  intro r stub
  have hm : r.model? "Person" = some Compiler.personModel := by rfl
  have hf : Compiler.petField ∈ Compiler.personModel.fields := by decide
  obtain ⟨i, j, _, hi, hj, _, _, hflat, hnested⟩ := fill_either_encoding petDeclarations hm hf rfl
    (show r.flatIdKey? "Pet" .conventional = some "petId" by rfl) (by decide)
    (show r.primaryKey? "Pet" = some ⟨"id", "id", .primaryKey .float⟩ by rfl)
    (show (Value.number (.int 7)).isNull = false by rfl)
    (show (Value.object [("pet", .null)]).present? "pet" = none by rfl)
  exact ⟨i, j, hi, hj, hflat, hnested⟩

/-! ## What a flat id reaches -/

theorem setting?_eq_null (hk : f.kind.isForeignKey = true) (h : ∀ key, r.Reads f key → raw.present? key = none) :
    r.setting? raw f = some .null := by
  cases hkind : f.kind with
  | foreignKey target idColumn =>
    have hnone : r.related? raw f.wireName target idColumn = none := by
      unfold related? flatStub?
      rw [h f.wireName (.inl rfl)]
      cases hpk : r.primaryKey? target with
      | none => rfl
      | some pk =>
        cases hkey : idColumn.bind (r.flatIdKey? target) with
        | none => rfl
        | some key =>
          have habsent : raw.present? key = none := h key (.inr ⟨target, idColumn, hkind, by rw [hpk]; rfl, hkey⟩)
          simp only [Option.bind_some, habsent, Option.map_none]
    rw [setting?_of_foreignKey hkind, hnone, Option.elim_none]
  | _ =>
    rw [hkind] at hk
    cases hk

/-- **A single key sets just the foreign keys that read it**, unless its value is null. -/
theorem isSome_setting?_single_iff (hk : f.kind.isForeignKey = true) :
    ((r.setting? (.object [(key, v)]) f).filter (!·.isNull)).isSome = true ↔ v.isNull = false ∧ r.Reads f key := by
  constructor
  · intro hset
    by_contra hno
    have hnull : r.setting? (.object [(key, v)]) f = some .null := by
      refine setting?_eq_null hk fun key' hreads => ?_
      cases hv : v.isNull with
      | true => exact Value.present?_single_of_null hv key key'
      | false => exact Value.present?_single_of_ne fun he => hno ⟨hv, by rw [he]; exact hreads⟩
    rw [hnull] at hset
    cases hset
  · rintro ⟨hv, hreads⟩
    exact isSome_setting?_single hv hreads

/-- A foreign key of the model under which the instance holds something else than null. -/
def HoldsRelation (m : Model) (i : Instance) (f : Field) : Prop :=
  f ∈ m.fields ∧ f.kind.isForeignKey = true ∧ (i.toValue.present? f.name).isSome = true

/-- **A flat id sets the foreign keys that read its key and no others.** So it sets one of them at most just when no two
read its key. -/
theorem fill_flat_id (declarations : List Declaration) {className : String} {m : Model}
    (hm : (ofDeclarations declarations).model? className = some m) (key : String) (v : Value) :
    let r := ofDeclarations declarations
    ∃ i : Instance, (r.fill (some (.object [(key, v)])) (some className)).value = some i ∧
      (∀ f ∈ m.fields, f.kind.isForeignKey = true → (HoldsRelation m i f ↔ v.isNull = false ∧ r.Reads f key)) ∧
      ((∀ f g, HoldsRelation m i f → HoldsRelation m i g → f = g) ↔
        v.isNull = true ∨ ∀ f ∈ m.fields, ∀ g ∈ m.fields, f.kind.isForeignKey = true → g.kind.isForeignKey = true →
          r.Reads f key → r.Reads g key → f = g) := by
  intro r
  have hd : r.FieldsDistinct := fieldsDistinct_ofDeclarations declarations
  obtain ⟨i, hi, hget⟩ := get?_of_fill hd hm [(key, v)]
  have hholds : ∀ f ∈ m.fields, f.kind.isForeignKey = true →
      (HoldsRelation m i f ↔ v.isNull = false ∧ r.Reads f key) := by
    intro f hf hk
    have hpresent : i.toValue.present? f.name = (r.setting? (.object [(key, v)]) f).filter (!·.isNull) := by
      rw [← hget f hf]
      rfl
    unfold HoldsRelation
    rw [hpresent, isSome_setting?_single_iff hk]
    exact ⟨fun h => h.2.2, fun h => ⟨hf, hk, h⟩⟩
  refine ⟨i, hi, hholds, fun hone => ?_, fun hone f g hfr hgr => ?_⟩
  · cases hv : v.isNull with
    | true => exact .inl rfl
    | false =>
      exact .inr fun f hf g hg hkf hkg hrf hrg =>
        hone f g ((hholds f hf hkf).2 ⟨hv, hrf⟩) ((hholds g hg hkg).2 ⟨hv, hrg⟩)
  · obtain ⟨hv, hrf⟩ := (hholds f hfr.1 hfr.2.1).1 hfr
    obtain ⟨_, hrg⟩ := (hholds g hgr.1 hgr.2.1).1 hgr
    rcases hone with hnull | hone
    · rw [hnull] at hv
      cases hv
    · exact hone f hfr.1 g hgr.1 hfr.2.1 hgr.2.1 hrf hrg

/-- A person's pet is the one relation that its id sets. -/
theorem pet_id_sets_pet :
    let r := ofDeclarations petDeclarations
    ∃ i, r.model? "Person" = some Compiler.personModel ∧
      (r.fill (some (.object [("petId", .number (.int 7))])) (some "Person")).value = some i ∧
      HoldsRelation Compiler.personModel i Compiler.petField ∧
      ∀ f, HoldsRelation Compiler.personModel i f → f = Compiler.petField := by
  intro r
  have hm : r.model? "Person" = some Compiler.personModel := by rfl
  obtain ⟨i, hi, hholds, _⟩ := fill_flat_id petDeclarations hm "petId" (.number (.int 7))
  have hreads : r.Reads Compiler.petField "petId" := .inr ⟨"Pet", _, rfl, by decide, rfl⟩
  have honly : ∀ f ∈ Compiler.personModel.fields, f.kind.isForeignKey = true → f = Compiler.petField := by decide
  exact ⟨i, hm, hi, (hholds _ (by decide) rfl).2 ⟨rfl, hreads⟩, fun f hf => honly f hf.1 hf.2.1⟩

/-- A person has a pet and a spare one, and both may be given by the conventional key. -/
def spareDeclarations : List Declaration := petDeclarations ++
  [.field "Person" "spare" (.foreignKey "Pet" (some .conventional)) none]

def spareField : Field := ⟨"spare", "spare", .foreignKey "Pet" (some .conventional)⟩

/-- The one id is taken for both. -/
theorem flat_id_sets_both :
    let r := ofDeclarations spareDeclarations
    r.IsEntity "Person" ∧ r.flatIdKey? "Pet" .conventional = some "petId" ∧
      ∃ m i, r.model? "Person" = some m ∧
        (r.fill (some (.object [("petId", .number (.int 7))])) (some "Person")).value = some i ∧
        HoldsRelation m i Compiler.petField ∧ HoldsRelation m i spareField ∧ Compiler.petField ≠ spareField := by
  intro r
  refine ⟨by decide, rfl, _, _, rfl, rfl, ⟨?_, rfl, rfl⟩, ⟨?_, rfl, rfl⟩, ?_⟩
  · decide
  · decide
  · decide

end Registry

end EntityGraph
