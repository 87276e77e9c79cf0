import EntityGraph.Proofs.Fill.Settings
import Mathlib.Data.List.Nodup
/-!
# The shape of a filled instance

`Shape` says of a raw value, a class and an instance that the one stands for the other: which fields are set, in which
order, and to what. A nested object has a shape again, as an instance of the target of its foreign key. So a shape is
as deep as the value and not as the models, which may refer to each other in circles.

Filling gives the one instance of this shape, and none just if there is nothing to fill (`fill_iff_shape`). In such an
instance, and in all that it is related to, nothing is set but declared fields (`Shape.declared`).
-/

namespace EntityGraph

/-! ## Values -/

namespace Value

theorem sizeOf_lt_of_get? {v w : Value} {key : String} (h : v.get? key = some w) : sizeOf w < sizeOf v := by
  cases v with
  | object fields =>
    have hmem : (key, w) ∈ fields := Entries.mem_of_get? h
    have hlt := List.sizeOf_lt_of_mem hmem
    simp only [Prod.mk.sizeOf_spec, object.sizeOf_spec] at hlt ⊢
    omega
  | _ => cases h

theorem induction_on_entries {P : Value → Prop} (step : ∀ v, (∀ key w, v.get? key = some w → P w) → P v) (v : Value) :
    P v :=
  step v fun _ w h =>
    have _hlt : sizeOf w < sizeOf v := sizeOf_lt_of_get? h
    induction_on_entries step w
termination_by sizeOf v

end Value

namespace Registry

/-! ## Shapes -/

/-- The declared fields of a class, which may have none. -/
def fieldsOf (r : Registry) (className : String) : List Field := ((r.model? className).map (·.fields)).getD []

mutual

/-- The value stands for the instance of the class. -/
inductive Shape (r : Registry) : Value → String → Instance → Prop
  | intro {raw : Value} {className : String} {i : Instance} (notNull : raw.isNull = false)
    (ofClass : i.className = className)
    -- in order of declaration: all foreign keys, and the columns whose wire name is a key of the value
    (set : i.fieldNames = ((r.fieldsOf className).filter fun f =>
      f.kind.isForeignKey || (raw.get? f.wireName).isSome).map (·.name))
    (copied : ∀ f ∈ r.fieldsOf className, f.kind.isForeignKey = false → i.get? f.name = raw.get? f.wireName)
    (related : ∀ f ∈ r.fieldsOf className, ∀ target idColumn, f.kind = .foreignKey target idColumn →
      Relates r raw f.wireName target idColumn (i.get? f.name)) :
    Shape r raw className i

/-- What the value gives for a foreign key: a nested instance, or else a stub with the flat id, or else null. -/
inductive Relates (r : Registry) : Value → String → String → Option IdColumn → Option Value → Prop
  | nested {raw v : Value} {wireName target : String} {idColumn : Option IdColumn} {j : Instance}
    (hv : raw.present? wireName = some v) (hj : Shape r v target j) :
    Relates r raw wireName target idColumn (some j.toValue)
  | stub {raw v : Value} {wireName target key : String} {idColumn : Option IdColumn} {pk : Field}
    (hn : raw.present? wireName = none) (hpk : r.primaryKey? target = some pk)
    (hkey : idColumn.bind (r.flatIdKey? target) = some key) (hv : raw.present? key = some v) :
    Relates r raw wireName target idColumn (some (.object [(pk.name, v)]))
  | null {raw : Value} {wireName target : String} {idColumn : Option IdColumn}
    (hn : raw.present? wireName = none)
    (hno : ∀ pk key, r.primaryKey? target = some pk → idColumn.bind (r.flatIdKey? target) = some key →
      raw.present? key = none) :
    Relates r raw wireName target idColumn (some .null)

end

/-- An object with no keys but declared fields of the class, and so are the objects under its foreign keys. -/
inductive DeclaredOnly (r : Registry) : String → Value → Prop
  | object {className : String} {fields : List (String × Value)}
    (declared : ∀ name ∈ Entries.keys fields, name ∈ (r.fieldsOf className).map (·.name))
    (related : ∀ f ∈ r.fieldsOf className, ∀ target idColumn, f.kind = .foreignKey target idColumn →
      ∀ v, Entries.get? fields f.name = some v → v.isNull = false → DeclaredOnly r target v) :
    DeclaredOnly r className (.object fields)

variable {r : Registry} {raw : Value} {className : String} {f : Field} {i : Instance}

theorem nodup_fieldsOf (hd : r.FieldsDistinct) (className : String) : ((r.fieldsOf className).map (·.name)).Nodup := by
  unfold fieldsOf
  cases hm : r.model? className with
  | none => exact List.nodup_nil
  | some m => exact hd className m hm

theorem mem_fieldsOf_of_primaryKey? {pk : Field} (h : r.primaryKey? className = some pk) :
    pk ∈ r.fieldsOf className := by
  obtain ⟨m, hm, hpk⟩ := Option.bind_eq_some_iff.1 h
  unfold fieldsOf
  rw [hm]
  exact List.mem_reverse.1 (List.mem_of_find?_eq_some hpk)

/-! ## Filling gives the shape -/

theorem fillValue_fieldsOf (hd : r.FieldsDistinct) (h : raw.isNull = false) :
    (r.fillValue raw className).value = some ⟨className, r.settings raw (r.fieldsOf className)⟩ := by
  unfold fieldsOf
  cases hm : r.model? className with
  | some m => exact fillValue_value hd h hm
  | none =>
    rw [fillValue_eq_fillModel h]
    unfold fillModel
    rw [hm]
    rfl

theorem isSome_setting? (r : Registry) (raw : Value) (f : Field) :
    (r.setting? raw f).isSome = (f.kind.isForeignKey || (raw.get? f.wireName).isSome) := by
  unfold setting?
  cases f.kind <;> rfl

theorem setting?_of_column (hk : f.kind.isForeignKey = false) : r.setting? raw f = raw.get? f.wireName := by
  unfold setting?
  cases hkind : f.kind with
  | foreignKey target idColumn => rw [hkind] at hk; cases hk
  | _ => rfl

theorem relates_flat_iff {wireName target : String} {idColumn : Option IdColumn} {o : Option Value}
    (hn : raw.present? wireName = none) : r.Relates raw wireName target idColumn o ↔
      some (match r.flatStub? raw target idColumn with | some j => j.toValue | none => .null) = o := by
  cases hs : r.flatStub? raw target idColumn with
  | some j =>
    obtain ⟨pk, hpk, hs⟩ := Option.bind_eq_some_iff.1 hs
    obtain ⟨key, hkey, hs⟩ := Option.bind_eq_some_iff.1 hs
    obtain ⟨v, hv, rfl⟩ := Option.map_eq_some_iff.1 hs
    constructor
    · rintro (⟨hv', _⟩ | ⟨_, hpk', hkey', hv'⟩ | ⟨_, hno⟩)
      · cases hn.symm.trans hv'
      · cases hpk.symm.trans hpk'
        cases hkey.symm.trans hkey'
        cases hv.symm.trans hv'
        rfl
      · cases (hno pk key hpk hkey).symm.trans hv
    · rintro rfl
      exact .stub hn hpk hkey hv
  | none =>
    have hno : ∀ pk key, r.primaryKey? target = some pk → idColumn.bind (r.flatIdKey? target) = some key →
        raw.present? key = none := fun pk key hpk hkey =>
      Option.map_eq_none_iff.1 (Option.bind_eq_none_iff.1 (Option.bind_eq_none_iff.1 hs pk hpk) key hkey)
    constructor
    · rintro (⟨hv', _⟩ | ⟨_, hpk', hkey', hv'⟩ | _)
      · cases hn.symm.trans hv'
      · cases (hno _ _ hpk' hkey').symm.trans hv'
      · rfl
    · rintro rfl
      exact .null hn hno

/-- **A foreign key is set to what the value gives for it**, if filling gives the shape of all that is nested. -/
theorem relates_iff (ih : ∀ key v, raw.get? key = some v → ∀ target j,
      (r.fillValue v target).value = some j ↔ r.Shape v target j)
    {target : String} {idColumn : Option IdColumn} (hk : f.kind = .foreignKey target idColumn) (o : Option Value) :
    r.Relates raw f.wireName target idColumn o ↔ r.setting? raw f = o := by
  unfold setting? related?
  rw [hk]
  dsimp only
  cases hn : raw.present? f.wireName with
  | none => exact relates_flat_iff hn
  | some v =>
    obtain ⟨hget, hv⟩ := Value.present?_eq_some_iff.1 hn
    obtain ⟨j, hj⟩ := Option.isSome_iff_exists.1 (isSome_fillValue r target hv)
    simp only [hj]
    constructor
    · rintro (⟨hv', hj'⟩ | ⟨hn', _⟩ | ⟨hn', _⟩)
      · cases hn.symm.trans hv'
        cases hj.symm.trans ((ih _ v hget target _).2 hj')
        rfl
      · cases hn.symm.trans hn'
      · cases hn.symm.trans hn'
    · rintro rfl
      exact .nested hn ((ih _ v hget target j).1 hj)

/-- The instance that lists what some fields are set to, as the names that are set and what each field holds. -/
theorem eq_settings_iff {fs : List Field} (hn : (fs.map (·.name)).Nodup) {fields : Entries Value} :
    r.settings raw fs = fields ↔
      fields.keys = (fs.filter fun f => f.kind.isForeignKey || (raw.get? f.wireName).isSome).map (·.name) ∧
        ∀ f ∈ fs, r.setting? raw f = fields.get? f.name := by
  have hkeys : (r.settings raw fs).keys =
      (fs.filter fun f => f.kind.isForeignKey || (raw.get? f.wireName).isSome).map (·.name) := by
    rw [keys_settings]
    simp only [isSome_setting?]
  constructor
  · rintro rfl
    exact ⟨hkeys, fun f hf => (get?_settings hn hf).symm⟩
  · rintro ⟨hset, hget⟩
    refine Entries.eq_of_get? (hkeys.trans hset.symm) (nodup_keys_settings hn) fun key hkey => ?_
    obtain ⟨f, hf, rfl⟩ := List.mem_map.1 (hkeys ▸ hkey)
    have hf := (List.mem_filter.1 hf).1
    rw [get?_settings hn hf, hget f hf]

/-- **Filling gives just the instance of the value's shape.** -/
theorem fillValue_iff_shape (hd : r.FieldsDistinct) (raw : Value) : ∀ className i,
    (r.fillValue raw className).value = some i ↔ r.Shape raw className i := by
  induction raw using Value.induction_on_entries with
  | step raw ih =>
    intro className i
    cases hnull : raw.isNull with
    | true =>
      cases raw with
      | null =>
        unfold fillValue
        constructor
        · rintro ⟨⟩
        · rintro ⟨⟨⟩⟩
      | _ => cases hnull
    | false =>
      rw [fillValue_fieldsOf hd hnull]
      constructor
      · rintro ⟨⟩
        obtain ⟨hset, hget⟩ := (eq_settings_iff (nodup_fieldsOf hd className)).1 rfl
        refine .intro hnull rfl hset (fun f hf hk => ?_) fun f hf target idColumn hk => ?_
        · exact (hget f hf).symm.trans (setting?_of_column hk)
        -- what is nested is filled by its shape, because it is smaller
        · exact (relates_iff ih hk _).2 (hget f hf)
      · rintro ⟨_, rfl, hset, hcopied, hrelated⟩
        have hfields : r.settings raw (r.fieldsOf i.className) = i.fields := by
          refine (eq_settings_iff (nodup_fieldsOf hd i.className)).2 ⟨hset, fun f hf => ?_⟩
          cases hk : f.kind with
          | foreignKey target idColumn => exact (relates_iff ih hk _).1 (hrelated f hf target idColumn hk)
          | _ =>
            have hcolumn : f.kind.isForeignKey = false := by rw [hk]; rfl
            exact (setting?_of_column hcolumn).trans (hcopied f hf hcolumn).symm
        rw [hfields]

/-! ## Nothing else is set -/

theorem declaredOnly_stub (hd : r.FieldsDistinct) {target : String} {pk : Field}
    (hpk : r.primaryKey? target = some pk) (v : Value) : r.DeclaredOnly target (.object [(pk.name, v)]) := by
  have hmem := mem_fieldsOf_of_primaryKey? hpk
  refine .object (fun name hname => ?_) fun f hf target' idColumn hk w hw hnull => ?_
  · rw [List.mem_singleton.1 hname]
    exact List.mem_map_of_mem hmem
  · -- the one key is that of the primary key, and no foreign key has the same name
    have hname : pk.name = f.name := (List.mem_singleton.1 (Entries.mem_keys_of_get? hw)).symm
    obtain rfl := List.inj_on_of_nodup_map (nodup_fieldsOf hd target) hmem hf hname
    obtain ⟨s, hkind⟩ := kind_of_primaryKey? hpk
    rw [hkind] at hk
    cases hk

/-- **Of a filled instance, and of all that it is related to, only declared fields are set.** -/
theorem Shape.declared (hd : r.FieldsDistinct) (raw : Value) : ∀ className i, r.Shape raw className i →
    r.DeclaredOnly className i.toValue := by
  induction raw using Value.induction_on_entries with
  | step raw ih =>
    rintro _ i ⟨_, rfl, hset, _, hrelated⟩
    refine .object (fun name hname => ?_) fun f hf target idColumn hk v hv hnull => ?_
    · have hname : name ∈ i.fieldNames := hname
      rw [hset] at hname
      exact (List.filter_sublist.map _).subset hname
    · have hrelates := hrelated f hf target idColumn hk
      have hget : i.get? f.name = some v := hv
      rw [hget] at hrelates
      cases hrelates with
      | nested hpresent hj => exact ih _ _ (Value.present?_eq_some_iff.1 hpresent).1 target _ hj
      | stub _ hpk _ _ => exact declaredOnly_stub hd hpk _
      | null _ _ => cases hnull

theorem fillValue_eq_none_iff (r : Registry) (raw : Value) (className : String) :
    (r.fillValue raw className).value = none ↔ raw = .null := by
  constructor
  · intro hnone
    cases hnull : raw.isNull with
    | true =>
      cases raw with
      | null => rfl
      | _ => cases hnull
    | false =>
      have hsome := isSome_fillValue r className hnull
      rw [hnone] at hsome
      cases hsome
  · rintro rfl
    unfold fillValue
    rfl

/-- **Filling a value** ends for every value, class and registry. It gives nothing just if there is no value, or null,
or no class; otherwise it gives the one instance of the value's shape, in which nothing is set that is not declared,
however deep. -/
theorem fill_iff_shape (declarations : List Declaration) :
    let r := Registry.ofDeclarations declarations
    (∀ raw className, (r.fill raw className).value = none ↔ raw = none ∨ raw = some .null ∨ className = none) ∧
    (∀ raw className i, (r.fill (some raw) (some className)).value = some i ↔ r.Shape raw className i) ∧
    ∀ raw className i, r.Shape raw className i → r.DeclaredOnly className i.toValue := by
  intro r
  have hd : r.FieldsDistinct := fieldsDistinct_ofDeclarations declarations
  refine ⟨fun raw className => ?_, fillValue_iff_shape hd, Shape.declared hd⟩
  cases raw with
  | none => simp [fill]
  | some raw =>
    cases className with
    | none => simp [fill]
    | some className => simp [fill, fillValue_eq_none_iff]

end Registry

end EntityGraph
