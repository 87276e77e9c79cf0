import EntityGraph.Schema.Table
/-!
# What the roots hold

A root enters each field under its own name, and a later field of a name takes the place of the earlier one. So what
stands under a name is called so, and all fields were prepared for the root (`orderly_ofResolvers`). The object type of
a root has the names of the root, or the placeholder if there are none (`fieldNames_outputType`).
-/

namespace EntityGraph

namespace Roots

variable {P : RootField → Prop} {root : Dict RootField} {kind : RootKind}

/-- Fields are entered under their names, and all of them meet `P`. -/
structure Orderly (P : RootField → Prop) (root : Dict RootField) : Prop where
  name : ∀ e ∈ root.entries, e.2.name = e.1
  field : ∀ e ∈ root.entries, P e.2

theorem orderly_empty : Orderly P .empty where
  name _ he := absurd he List.not_mem_nil
  field _ he := absurd he List.not_mem_nil

/-! ## Adding fields -/

theorem addField_value (kind : RootKind) (root : Dict RootField) (f : RootField) :
    (addField kind root f).value = root.insert f.name f := by
  unfold addField
  split <;> rfl

theorem Orderly.addField (h : Orderly P root) {f : RootField} (hf : P f) :
    Orderly P (addField kind root f).value := by
  rw [addField_value]
  refine ⟨fun e he => ?_, fun e he => ?_⟩
  · rcases Dict.mem_insert he with he | rfl
    · exact h.name e he
    · rfl
  · rcases Dict.mem_insert he with he | rfl
    · exact h.field e he
    · exact hf

theorem Orderly.addFields : ∀ (fs : List RootField) {root : Dict RootField}, Orderly P root → (∀ f ∈ fs, P f) →
    Orderly P (addFields kind root fs).value
  | [], _, h, _ => h
  | f :: fs, _, h, hfs =>
    Orderly.addFields fs (h.addField (hfs f List.mem_cons_self)) fun g hg => hfs g (List.mem_cons_of_mem _ hg)

theorem orderly_addResolver {r : Roots} (h : ∀ kind, Orderly P (r.fields kind)) {fs : List RootField}
    (hfs : ∀ f ∈ fs, P f) (kind : RootKind) : Orderly P ((r.addResolver fs).value.fields kind) := by
  have hfilter : ∀ other : RootKind, ∀ f ∈ fs.filter (·.kind == other), P f := fun other f hf =>
    hfs f (List.mem_filter.1 hf).1
  cases kind with
  | query => exact (h .query).addFields _ (hfilter .query)
  | mutation => exact (h .mutation).addFields _ (hfilter .mutation)

theorem orderly_addResolvers : ∀ (prepared : List (List RootField)) {r : Roots},
    (∀ kind, Orderly P (r.fields kind)) → (∀ fs ∈ prepared, ∀ f ∈ fs, P f) →
      ∀ kind, Orderly P ((r.addResolvers prepared).value.fields kind)
  | [], _, h, _ => h
  | fs :: prepared, r, h, hp => by
    have hfs := orderly_addResolver h (hp fs List.mem_cons_self)
    exact orderly_addResolvers prepared hfs fun fs' hfs' => hp fs' (List.mem_cons_of_mem _ hfs')

/-- **The roots are orderly, and what holds of all prepared fields holds of theirs.** -/
theorem orderly_ofResolvers {prepared : List (List RootField)} (h : ∀ fs ∈ prepared, ∀ f ∈ fs, P f)
    (kind : RootKind) : Orderly P ((ofResolvers prepared).value.fields kind) := by
  have hempty : ∀ kind, Orderly P (({} : Roots).fields kind) := fun kind => by
    cases kind <;> exact orderly_empty
  exact orderly_addResolvers prepared hempty h kind

/-! ## The types of the roots -/

theorem Orderly.map_name (h : Orderly P root) : root.values.map (·.name) = root.keys := by
  unfold Dict.values Dict.keys Entries.keys
  rw [List.map_map]
  exact List.map_congr_left fun e he => h.name e he

/-- The fields of a root's type are those of the root, unless it has none. -/
theorem mem_outputType {r : Roots} {g : OutputField} (h : g ∈ (r.outputType kind).fields) :
    g = .placeholder ∨ ∃ f ∈ (r.fields kind).values, OutputField.ofRoot f = g := by
  unfold outputType at h
  dsimp only at h
  split at h
  · exact .inl (List.mem_singleton.1 h)
  · exact .inr (List.mem_map.1 h)

theorem fieldNames_outputType {r : Roots} (h : Orderly P (r.fields kind)) :
    (SchemaType.output (r.outputType kind)).fieldNames =
      if (r.fields kind).keys = [] then [placeholderName] else (r.fields kind).keys := by
  have hnames : ((r.fields kind).values.map OutputField.ofRoot).map (·.name) = (r.fields kind).keys := by
    rw [List.map_map, ← h.map_name]
    rfl
  unfold SchemaType.fieldNames outputType
  dsimp only
  rw [← hnames]
  cases (r.fields kind).values.map OutputField.ofRoot with
  | nil => rfl
  | cons f fs => rfl

theorem hasMutation_iff {r : Roots} : r.hasMutation = true ↔ (r.fields .mutation).keys ≠ [] := by
  unfold hasMutation Dict.isEmpty fields Dict.keys Entries.keys
  cases r.mutation.entries <;> simp

theorem mem_schemaTypes {r : Roots} {t : SchemaType} (h : t ∈ r.schemaTypes) :
    ∃ kind, t = .output (r.outputType kind) ∧ (kind = .query ∨ (r.fields kind).keys ≠ []) := by
  unfold schemaTypes at h
  rcases List.mem_cons.1 h with rfl | h
  · exact ⟨.query, rfl, .inl rfl⟩
  · split at h
    · rename_i hm
      exact ⟨.mutation, List.mem_singleton.1 h, .inr (hasMutation_iff.1 hm)⟩
    · cases h

end Roots

end EntityGraph
