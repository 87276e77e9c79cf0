import EntityGraph.Proofs.Fill.Equality
import EntityGraph.Proofs.Fill.Settings
/-!
# Which keys filling reads

A field reads the key of its wire name and, if it is a foreign key that may be supplied by an id, its flat key. Raw
objects that agree on the keys that a model's fields read are filled alike (`fillValue_congr`). Conversely, each of
these keys matters: an object with nothing else is filled differently from the empty object (`fillValue_single`).
-/

namespace EntityGraph

namespace Registry

variable {r : Registry} {raw raw' : Value} {className key : String} {m : Model} {f : Field} {v : Value}

/-- Filling a field looks under its wire name, and for a foreign key to something with a primary key also under its
flat key. -/
def Reads (r : Registry) (f : Field) (key : String) : Prop :=
  key = f.wireName ∨ ∃ target idColumn, f.kind = .foreignKey target idColumn ∧
    (r.primaryKey? target).isSome = true ∧ idColumn.bind (r.flatIdKey? target) = some key

/-! ## Nothing else is read -/

theorem related?_congr {wireName target : String} {idColumn : Option IdColumn}
    (hw : raw.present? wireName = raw'.present? wireName)
    (hk : ∀ key, (r.primaryKey? target).isSome = true → idColumn.bind (r.flatIdKey? target) = some key →
      raw.present? key = raw'.present? key) :
    r.related? raw wireName target idColumn = r.related? raw' wireName target idColumn := by
  unfold related? flatStub?
  rw [hw]
  cases hp : r.primaryKey? target with
  | none => rfl
  | some pk =>
    cases hf : idColumn.bind (r.flatIdKey? target) with
    | none => rfl
    | some key => rw [Option.bind_some, Option.bind_some, Option.bind_some, hk key (by rw [hp]; rfl) hf]; rfl

theorem setting?_congr (h : ∀ key, r.Reads f key → raw.get? key = raw'.get? key) :
    r.setting? raw f = r.setting? raw' f := by
  have hw : raw.get? f.wireName = raw'.get? f.wireName := h f.wireName (.inl rfl)
  unfold setting?
  cases hkind : f.kind with
  | primaryKey s => exact hw
  | column s => exact hw
  | foreignKey target idColumn =>
    have hrelated : r.related? raw f.wireName target idColumn = r.related? raw' f.wireName target idColumn := by
      refine related?_congr ?_ fun key hp hf => ?_
      · unfold Value.present?
        rw [hw]
      · unfold Value.present?
        rw [h key (.inr ⟨target, idColumn, hkind, hp, hf⟩)]
    simp only [hrelated]

/-- **Values that agree on the keys that are read are filled alike.** -/
theorem fillValue_congr (hd : r.FieldsDistinct) (hm : r.model? className = some m) (hraw : raw.isNull = false)
    (hraw' : raw'.isNull = false) (h : ∀ f ∈ m.fields, ∀ key, r.Reads f key → raw.get? key = raw'.get? key) :
    (r.fillValue raw className).value = (r.fillValue raw' className).value := by
  rw [fillValue_value hd hraw hm, fillValue_value hd hraw' hm]
  unfold settings
  rw [List.filterMap_congr fun f hf => by rw [setting?_congr (h f hf)]]

/-! ## Every key that is read matters -/

theorem setting?_empty (r : Registry) (f : Field) : (r.setting? (.object []) f).filter (!·.isNull) = none := by
  unfold setting?
  cases f.kind with
  | primaryKey s => rfl
  | column s => rfl
  | foreignKey target idColumn =>
    have hnone : r.related? (.object []) f.wireName target idColumn = none := by
      unfold related? flatStub?
      cases r.primaryKey? target with
      | none => rfl
      | some pk => cases idColumn.bind (r.flatIdKey? target) <;> rfl
    simp only [hnone]
    rfl

theorem isSome_setting?_single (hv : v.isNull = false) (h : r.Reads f key) :
    ((r.setting? (.object [(key, v)]) f).filter (!·.isNull)).isSome = true := by
  unfold setting?
  cases hkind : f.kind with
  | foreignKey target idColumn =>
    have hrelated : (r.related? (.object [(key, v)]) f.wireName target idColumn).isSome = true := by
      unfold related? flatStub?
      cases hn : (Value.object [(key, v)]).present? f.wireName with
      | some nested => exact isSome_fillValue r target (Value.present?_eq_some_iff.1 hn).2
      | none =>
        rcases h with rfl | ⟨target', idColumn', hkind', hp, hflat⟩
        · rw [Value.present?_single hv] at hn
          cases hn
        · rw [hkind] at hkind'
          cases hkind'
          obtain ⟨pk, hpk⟩ := Option.isSome_iff_exists.1 hp
          simp only [hpk, hflat, Option.bind_some, Value.present?_single hv]
          rfl
    obtain ⟨j, hj⟩ := Option.isSome_iff_exists.1 hrelated
    simp only [hj]
    rfl
  | _ =>
    rcases h with rfl | ⟨target, idColumn, hkind', _⟩
    · exact Option.isSome_iff_exists.2 ⟨v, Value.present?_single hv f.wireName⟩
    · rw [hkind] at hkind'
      cases hkind'

/-- **An object with one key that a field reads is not filled like the empty object.** -/
theorem fillValue_single (hd : r.FieldsDistinct) (hm : r.model? className = some m) (hf : f ∈ m.fields)
    (hr : r.Reads f key) (hv : v.isNull = false) :
    ∃ i j, (r.fillValue (.object []) className).value = some i ∧
      (r.fillValue (.object [(key, v)]) className).value = some j ∧ i ≠ j ∧ i.same j = false := by
  have hn := hd className m hm
  have hempty : (Value.object (r.settings (.object []) m.fields)).present? f.name = none := by
    rw [present?_settings hn hf, setting?_empty]
  have hsingle : ((Value.object (r.settings (.object [(key, v)]) m.fields)).present? f.name).isSome = true := by
    rw [present?_settings hn hf]
    exact isSome_setting?_single hv hr
  refine ⟨_, _, fillValue_value hd rfl hm, fillValue_value hd rfl hm, fun heq => ?_, ?_⟩
  · rw [← (Instance.mk.inj heq).2, hempty] at hsingle
    cases hsingle
  · refine Bool.eq_false_iff.2 fun hsame => ?_
    unfold Instance.same at hsame
    rw [Bool.and_eq_true] at hsame
    have hp := Value.isSome_present?_of_same (nodup_keys_settings hn) hsame.2 hsingle
    rw [hempty] at hp
    cases hp

end Registry

end EntityGraph
