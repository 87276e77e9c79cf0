import EntityGraph.Proofs.Types.Requests
import EntityGraph.Schema.Table
/-!
# The store between two requests

Whatever was asked for, in whatever order and of whatever registry, the store is `WellFormed` after each request:
slots, entries and relations agree. A request goes unanswered just when its class is no entity. As every relation
leads to a finished type, the types of the schema have all fields that were compiled, and nothing is noted on the way
(`schemaTypes_of_settled`).
-/

namespace EntityGraph

namespace TypeStore

variable {s : TypeStore}

/-! ## Fields of schema types -/

/-- A field whose relation, if it is one, leads to a finished type. -/
def Resolved (s : TypeStore) (f : CompiledField) : Prop :=
  ∀ handle r, f.type = .relation handle r → ∃ target, s.get? handle = some target

theorem outputField?_of_resolved (t : CompiledType) {f : CompiledField} (h : s.Resolved f) :
    (s.outputField? t f).log = [] ∧ ∃ g, (s.outputField? t f).value = some g ∧ g.name = f.name := by
  unfold outputField?
  cases hf : f.type with
  | scalar scalar => exact ⟨rfl, _, rfl, rfl⟩
  | relation handle r =>
    obtain ⟨target, ht⟩ := h handle r hf
    simp only [ht]
    exact ⟨rfl, _, rfl, rfl⟩

theorem inputField?_of_resolved {f : CompiledField} (h : s.Resolved f) :
    ∃ g, s.inputField? f = some g ∧ g.name = f.name := by
  unfold inputField?
  cases hf : f.type with
  | scalar scalar => exact ⟨_, rfl, rfl⟩
  | relation handle r =>
    obtain ⟨target, ht⟩ := h handle r hf
    simp only [ht]
    exact ⟨_, rfl, rfl⟩

/-- The fields of an output type are those of the compiled one, unless it has none. -/
theorem mem_outputType {t : CompiledType} {g : OutputField} (h : g ∈ (s.outputType t).value.fields) :
    g = .placeholder ∨ ∃ f ∈ t.fields, (s.outputField? t f).value = some g := by
  change g ∈ (if t.fields.isEmpty then [OutputField.placeholder] else
    (t.fields.map fun f => (s.outputField? t f).value).filterMap id) at h
  split at h
  · exact .inl (List.mem_singleton.1 h)
  · rw [List.filterMap_map] at h
    exact .inr (List.mem_filterMap.1 h)

theorem mem_inputType {t : CompiledType} {g : InputField} (h : g ∈ (s.inputType t).fields) :
    g = ⟨placeholderName, .ofScalar .string⟩ ∨ ∃ f ∈ t.fields, s.inputField? f = some g := by
  unfold inputType at h
  dsimp only at h
  split at h
  · exact .inl (List.mem_singleton.1 h)
  · exact .inr (List.mem_filterMap.1 h)

theorem map_name_filterMap {α : Type} {field? : CompiledField → Option α} {name : α → String} :
    ∀ (fs : List CompiledField), (∀ f ∈ fs, ∃ g, field? f = some g ∧ name g = f.name) →
      (fs.filterMap field?).map name = fs.map (·.name)
  | [], _ => rfl
  | f :: fs, h => by
    obtain ⟨g, hg, hn⟩ := h f List.mem_cons_self
    rw [List.filterMap_cons_some hg, List.map_cons, List.map_cons, hn,
      map_name_filterMap fs fun f' hf' => h f' (List.mem_cons_of_mem _ hf')]

/-- A type all of whose relations are resolved keeps all its fields in the schema, and nothing is noted. -/
theorem schemaType_of_resolved {t : CompiledType} (h : ∀ f ∈ t.fields, s.Resolved f) :
    (s.schemaType t).log = [] ∧ (t.fields ≠ [] → (s.schemaType t).value.fieldNames = t.fieldNames) := by
  unfold schemaType
  cases t.flavor with
  | output =>
    have hlog : (s.outputType t).log = [] := by
      change t.fields.flatMap (fun f => (s.outputField? t f).log) ++ [] = []
      rw [List.append_nil, List.flatMap_eq_nil_iff]
      exact fun f hf => (outputField?_of_resolved t (h f hf)).1
    refine ⟨by rw [Logged.log_bind, hlog]; rfl, fun hne => ?_⟩
    have hfields : (s.outputType t).value.fields = t.fields.filterMap fun f => (s.outputField? t f).value := by
      change (if t.fields.isEmpty then _ else (t.fields.map fun f => (s.outputField? t f).value).filterMap id) = _
      rw [if_neg (by rwa [List.isEmpty_iff]), List.filterMap_map]
      rfl
    change (s.outputType t).value.fields.map (·.name) = t.fieldNames
    rw [hfields]
    exact map_name_filterMap t.fields fun f hf => (outputField?_of_resolved t (h f hf)).2
  | input =>
    refine ⟨rfl, fun hne => ?_⟩
    change (if t.fields.isEmpty then _ else t.fields.filterMap s.inputField?).map (·.name) = t.fieldNames
    rw [if_neg (by rwa [List.isEmpty_iff])]
    exact map_name_filterMap t.fields fun f hf => inputField?_of_resolved (h f hf)

end TypeStore

namespace Compiler

variable {c : Compiler} {s : TypeStore}

/-! ## Relations -/

/-- **A relation leads to the entry of its target's name**, and to a finished type there. -/
theorem Settled.relation (h : c.Settled s) {i : Nat} {type : CompiledType} (ht : s.get? i = some type)
    {f : CompiledField} (hf : f ∈ type.fields) {handle : Nat} {r : Relation} (hr : f.type = .relation handle r) :
    ∃ target key, s.get? handle = some target ∧ target.flavor = type.flavor ∧ c.key? r.target = some key ∧
      (s.handles type.flavor).get? key = some handle := by
  obtain ⟨_, m, entity, hm⟩ := h.filled_of_get? ht
  rw [hm.fields] at hf
  obtain ⟨key, hk, hget⟩ := Option.bind_eq_some_iff.1 (link_of_mem_layout hf hr)
  obtain ⟨target, htarget, hfl, _⟩ := h.type_of_entry hget
  exact ⟨target, key, htarget, hfl, hk, hget⟩

theorem Settled.resolved (h : c.Settled s) {type : CompiledType} (ht : type ∈ s.types) :
    ∀ f ∈ type.fields, s.Resolved f := by
  intro f hf handle r hr
  obtain ⟨i, hi⟩ := TypeStore.mem_types_iff.1 ht
  obtain ⟨target, _, htarget, _⟩ := h.relation hi hf hr
  exact ⟨target, htarget⟩

/-- **Nothing is left out of the schema's types.** -/
theorem schemaTypes_of_settled (h : c.Settled s) :
    s.schemaTypes.log = [] ∧
      ∀ type ∈ s.types, type.fields ≠ [] → (s.schemaType type).value.fieldNames = type.fieldNames := by
  refine ⟨?_, fun type ht => (TypeStore.schemaType_of_resolved (h.resolved ht)).2⟩
  change s.types.flatMap (fun type => (s.schemaType type).log) = []
  rw [List.flatMap_eq_nil_iff]
  exact fun type ht => (TypeStore.schemaType_of_resolved (h.resolved ht)).1

/-! ## Well-formedness -/

/-- What slots, entries and relations of a store owe each other. -/
structure WellFormed (c : Compiler) (s : TypeStore) : Prop where
  /-- No slot is empty, and each type bears the number of its slot. -/
  filled : ∀ i, i < s.size → ∃ type, s.slots[i]? = some (some type) ∧ type.handle = i
  /-- An entry points to a type of its flavor whose entity has the entry's name. -/
  entry : ∀ flavor key i, (s.handles flavor).get? key = some i →
    ∃ type, s.get? i = some type ∧ type.flavor = flavor ∧ c.key? type.className = some key
  /-- One entry points to each slot. A table has one entry for a name, being a dictionary. -/
  owner : ∀ i, i < s.size → ∃! e : Flavor × String, (s.handles e.1).get? e.2 = some i
  size_eq : s.size = s.outputs.size + s.inputs.size
  /-- A relation leads to the type of its own flavor that is entered under the name of its target. -/
  relation : ∀ type ∈ s.types, ∀ f ∈ type.fields, ∀ handle r, f.type = .relation handle r →
    ∃ target key, s.get? handle = some target ∧ target.flavor = type.flavor ∧ c.key? r.target = some key ∧
      (s.handles type.flavor).get? key = some handle

theorem Settled.wellFormed (h : c.Settled s) : c.WellFormed s where
  filled i hi := by
    obtain ⟨type, hget, hh, _⟩ := h.filled i hi
    exact ⟨type, TypeStore.get?_eq_some_iff.1 hget, hh⟩
  entry _ _ _ := h.type_of_entry
  owner := h.numbered.entry
  size_eq := h.numbered.size_eq
  relation type ht f hf handle r hr := by
    obtain ⟨i, hi⟩ := TypeStore.mem_types_iff.1 ht
    exact h.relation hi hf hr

theorem request_eq_none_iff (h : c.Settled s) (q : TypeRequest) :
    ((c.request q).run s).value.1 = none ↔ ¬ c.registry.IsEntity q.className := by
  have hlink := isSome_link?_storeOf c h.numbered q
  rw [request_value c h.numbered q, ← isSome_key?, ← hlink]
  cases hl : c.link? (c.storeOf s q) q.flavor q.className with
  | none => simp
  | some i =>
    obtain ⟨type, hget, _⟩ := (h.storeOf q).type_of_link? hl
    simp [hget]

/-- **After every request of any sequence the store is well formed**, the request was answered just when its class is
an entity, and the schema's types lack none of the compiled fields. -/
theorem wellFormed_after_requests (c : Compiler) (requests : List TypeRequest) (q : TypeRequest) :
    let s := c.storeAfter (requests ++ [q])
    c.WellFormed s ∧
      (((c.request q).run (c.storeAfter requests)).value.1 = none ↔ ¬ c.registry.IsEntity q.className) ∧
      s.schemaTypes.log = [] ∧
      ∀ type ∈ s.types, type.fields ≠ [] → (s.schemaType type).value.fieldNames = type.fieldNames := by
  have hs := settled_storeAfter c (requests ++ [q])
  exact ⟨hs.wellFormed, request_eq_none_iff (settled_storeAfter c requests) q, schemaTypes_of_settled hs⟩

end Compiler

end EntityGraph
