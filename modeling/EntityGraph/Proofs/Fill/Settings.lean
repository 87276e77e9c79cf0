import EntityGraph.Fill
import EntityGraph.Proofs.Registry.Fields
import EntityGraph.Proofs.Reading.ForeignIds
/-!
# What filling sets

What filling sets in a field depends on the raw value alone and not on the fields before it: `setting?` says what it
is. As the names of a model's fields are distinct, the filled instance lists what its fields are set to, in order of
declaration (`fillValue_value`).
-/

namespace EntityGraph

namespace Registry

variable {r : Registry} {raw : Value} {className : String} {m : Model} {f : Field}

/-! ## One field -/

/-- The stub that a flat id gives, if there is one. -/
def flatStub? (r : Registry) (raw : Value) (target : String) (idColumn : Option IdColumn) : Option Instance :=
  (r.primaryKey? target).bind fun pk =>
    (idColumn.bind (r.flatIdKey? target)).bind fun key => (raw.present? key).map (stub target pk)

/-- What a foreign key is filled with: the instance from a nested value, or else the stub from a flat id. -/
def related? (r : Registry) (raw : Value) (wireName target : String) (idColumn : Option IdColumn) : Option Instance :=
  match raw.present? wireName with
  | some nested => (r.fillValue nested target).value
  | none => r.flatStub? raw target idColumn

/-- What a field is set to, if it is set. -/
def setting? (r : Registry) (raw : Value) (f : Field) : Option Value :=
  match f.kind with
  | .foreignKey target idColumn =>
    some (match r.related? raw f.wireName target idColumn with | some j => j.toValue | none => .null)
  | _ => raw.get? f.wireName

/-- Fills the value under a key, unless it is null. -/
def fillNested (r : Registry) (raw : Value) (key className : String) : Option (Logged (Option Instance)) :=
  (raw.present? key).map fun v => r.fillValue v className

theorem fillEntry_eq (r : Registry) : ∀ (fields : List (String × Value)) (key className : String),
    r.fillEntry fields key className = r.fillNested (.object fields) key className
  | [], _, _ => by
    unfold fillEntry
    rfl
  | (k, v) :: fields, key, className => by
    have ih := fillEntry_eq r fields key className
    unfold fillNested Value.present? at ih ⊢
    unfold fillEntry
    by_cases hk : k = key
    · cases hv : v.isNull <;> simp [Value.get?, Entries.get?, hk, hv, Option.filter]
    · rw [if_neg hk, ih]
      simp only [Value.get?, Entries.get?, if_neg hk]

theorem fillValue_eq_fillModel (h : raw.isNull = false) :
    r.fillValue raw className = r.fillModel raw (r.fillNested raw) className := by
  cases raw with
  | null => cases h
  | object fields =>
    have hentry : r.fillEntry fields = r.fillNested (.object fields) :=
      funext fun key => funext fun className => fillEntry_eq r fields key className
    unfold fillValue
    rw [hentry]
  | boolean b => unfold fillValue; rfl
  | number n => unfold fillValue; rfl
  | text s => unfold fillValue; rfl
  | enumeration name => unfold fillValue; rfl
  | binary bytes => unfold fillValue; rfl
  | list items => unfold fillValue; rfl

theorem isSome_fillValue (r : Registry) (className : String) (h : raw.isNull = false) :
    (r.fillValue raw className).value.isSome = true := by
  rw [fillValue_eq_fillModel h]
  unfold fillModel
  cases r.model? className <;> rfl

/-- With nothing nested, a foreign key is resolved by its flat id or not at all. -/
theorem resolveForeignKey_value {wireName target key : String} (h : raw.present? wireName = none) :
    (r.resolveForeignKey target raw wireName (some key)).value =
      (r.primaryKey? target).bind fun pk => (raw.present? key).map (stub target pk) := by
  have hnested (pk : Field) : (raw.get? wireName).bind (nestedId? pk) = none := by
    cases hv : raw.get? wireName with
    | none => rfl
    | some v =>
      rw [Value.eq_null_of_present?_eq_none h hv]
      rfl
  have hid (pk : Field) : foreignId? pk raw wireName (some key) = raw.present? key := by
    unfold foreignId?
    rw [hnested, Option.bind_some]
    cases raw.present? key <;> rfl
  rw [value_resolveForeignKey]
  simp only [hid]

/-- **A field is set by itself.** -/
theorem fillField_value (r : Registry) (raw : Value) (i : Instance) (f : Field) :
    (r.fillField raw (r.fillNested raw) i f).value =
      match r.setting? raw f with
      | some v => i.set f.name v
      | none => i := by
  unfold fillField setting?
  cases f.kind with
  | primaryKey s => cases raw.get? f.wireName <;> rfl
  | column s => cases raw.get? f.wireName <;> rfl
  | foreignKey target idColumn =>
    cases hn : raw.present? f.wireName with
    | some nested =>
      simp only [fillNested, related?, hn, Option.map_some]
      rfl
    | none =>
      simp only [fillNested, related?, flatStub?, hn, Option.map_none]
      cases idColumn.bind (r.flatIdKey? target) with
      | none => cases r.primaryKey? target <;> rfl
      | some key =>
        cases hv : raw.get? key with
        | none => cases r.primaryKey? target <;> simp [Option.filter, Value.present?, hv]
        | some v =>
          simp only [Option.filter, hv, Option.isSome_some, ↓reduceIte, Logged.value_bind, Logged.value_pure,
            Option.bind_some]
          exact congrArg (fun related => i.set f.name (match related with | some j => j.toValue | none => .null))
            (resolveForeignKey_value hn)

/-! ## All fields -/

/-- What some fields are set to, in their order. -/
def settings (r : Registry) (raw : Value) (fs : List Field) : Entries Value :=
  fs.filterMap fun f => (r.setting? raw f).map fun v => (f.name, v)

theorem settings_cons (r : Registry) (raw : Value) (f : Field) (fs : List Field) :
    r.settings raw (f :: fs) = ((r.setting? raw f).map fun v => (f.name, v)).toList ++ r.settings raw fs := by
  unfold settings
  cases hs : r.setting? raw f with
  | none => rw [List.filterMap_cons_none (by rw [hs]; rfl)]; rfl
  | some v => rw [List.filterMap_cons_some (by rw [hs]; rfl)]; rfl

theorem keys_settings (r : Registry) (raw : Value) : ∀ fs : List Field,
    (r.settings raw fs).keys = (fs.filter fun f => (r.setting? raw f).isSome).map (·.name)
  | [] => rfl
  | f :: fs => by
    have ih := keys_settings r raw fs
    unfold Entries.keys at ih ⊢
    rw [settings_cons, List.map_append, ih]
    cases hs : r.setting? raw f <;> simp [hs]

theorem get?_settings : ∀ {fs : List Field}, (fs.map (·.name)).Nodup → f ∈ fs →
    (r.settings raw fs).get? f.name = r.setting? raw f
  | g :: fs, hn, hf => by
    rw [settings_cons]
    rw [List.map_cons, List.nodup_cons] at hn
    rcases List.mem_cons.1 hf with rfl | hf
    · cases hs : r.setting? raw f with
      | some v => exact if_pos rfl
      | none =>
        refine (Entries.get?_eq_none_iff _ _).2 fun hm => hn.1 ?_
        rw [Option.map_none, Option.toList_none, List.nil_append, keys_settings] at hm
        exact (List.filter_sublist.map _).subset hm
    · have hne : g.name ≠ f.name := fun he => hn.1 (by rw [he]; exact List.mem_map_of_mem hf)
      cases r.setting? raw g with
      | some v => exact (if_neg hne).trans (get?_settings hn.2 hf)
      | none => exact get?_settings hn.2 hf

theorem nodup_keys_settings {fs : List Field} (hn : (fs.map (·.name)).Nodup) :
    (r.settings raw fs).keys.Nodup := by
  rw [keys_settings]
  exact hn.sublist (List.filter_sublist.map _)

theorem present?_settings {fs : List Field} (hn : (fs.map (·.name)).Nodup) (hf : f ∈ fs) :
    (Value.object (r.settings raw fs)).present? f.name = (r.setting? raw f).filter (!·.isNull) := by
  unfold Value.present?
  rw [Value.get?, get?_settings hn hf]

/-- Fields under names that are not taken are set in their order, after what is there. -/
theorem fillFields_value (r : Registry) (raw : Value) : ∀ (fs : List Field) (i : Instance),
    (i.fields.keys ++ fs.map (·.name)).Nodup →
      (r.fillFields raw (r.fillNested raw) i fs).value = ⟨i.className, i.fields ++ r.settings raw fs⟩
  | [], i, _ => by
    unfold fillFields settings
    rw [List.filterMap_nil, List.append_nil]
    rfl
  | f :: fs, i, hn => by
    unfold fillFields
    rw [Logged.value_bind, fillField_value, settings_cons]
    rw [List.map_cons] at hn
    cases hs : r.setting? raw f with
    | none =>
      have hrest : (i.fields.keys ++ fs.map (·.name)).Nodup := hn.sublist (by simp)
      exact fillFields_value r raw fs i hrest
    | some v =>
      have hfresh : i.fields.get? f.name = none := by
        rw [Entries.get?_eq_none_iff]
        exact fun hm => (List.nodup_append.1 hn).2.2 _ hm _ List.mem_cons_self rfl
      have hset : i.set f.name v = ⟨i.className, i.fields ++ [(f.name, v)]⟩ := by
        unfold Instance.set
        rw [Entries.insert_of_get?_eq_none _ _ hfresh]
      dsimp only
      rw [hset, fillFields_value r raw fs _ (by simpa [Entries.keys] using hn)]
      simp

/-- **The instance filled from a value that is not null** lists what the model's fields are set to. -/
theorem fillValue_value (hd : r.FieldsDistinct) (h : raw.isNull = false) (hm : r.model? className = some m) :
    (r.fillValue raw className).value = some ⟨className, r.settings raw m.fields⟩ := by
  rw [fillValue_eq_fillModel h]
  unfold fillModel
  rw [hm]
  simp only [Logged.value_bind, Logged.value_pure]
  rw [fillFields_value r raw m.fields (Instance.empty className) (hd className m hm)]
  rfl

end Registry

end EntityGraph
