import EntityGraph.Proofs.Schema.FieldNames
/-!
# Everything that a schema mentions is in it

Types are compiled on the way wherever one is mentioned, by a relation, by what a method returns or by what it takes,
and every build hands over all types compiled so far. So whatever was registered and built before, what a build hands
over is closed: each name in it is that of a scalar or of a compiled type of the right flavor that is handed over with
it, and no type is without a field (`closed_assembly`).

Types that share a name replace each other in the table, and may then be of another flavor than the one that was
meant. A table with such a mention is refused, so that in the table of a schema every name still leads to a type of
the right flavor (`mentions_of_refusal?_eq_none`).
-/

namespace EntityGraph

/-! ## Mentions -/

namespace SchemaType

def flavor : SchemaType → Flavor
  | .output _ => .output
  | .input _ => .input

/-- All names of types in the fields of a type meet `P` of the flavor that is called for: output types where a value
is returned, input types where one is accepted. -/
def MentionsOnly (P : Flavor → String → Prop) : SchemaType → Prop
  | .output t => ∀ f ∈ t.fields, P .output f.type.name ∧ ∀ a ∈ f.arguments.entries, P .input a.2.name
  | .input t => ∀ f ∈ t.fields, P .input f.type.name

variable {P Q : Flavor → String → Prop}

theorem MentionsOnly.mono (h : ∀ flavor name, P flavor name → Q flavor name) :
    ∀ {t : SchemaType}, t.MentionsOnly P → t.MentionsOnly Q
  | .output _, ht => fun f hf => ⟨h _ _ (ht f hf).1, fun a ha => h _ _ ((ht f hf).2 a ha)⟩
  | .input _, ht => fun f hf => h _ _ (ht f hf)

end SchemaType

/-- The name of a scalar, or of a compiled type of this flavor that is handed over. -/
def Assembly.Registers (a : Assembly) (flavor : Flavor) (name : String) : Prop :=
  IsScalarName name ∨ ∃ t ∈ a.types, t.flavor = flavor ∧ t.name = name

/-- The name of a scalar, or one under which a type of this flavor is found. -/
def TypeTable.Resolves (table : TypeTable) (flavor : Flavor) (name : String) : Prop :=
  IsScalarName name ∨ ∃ t, table.type? name = some t ∧ t.flavor = flavor

/-! ## Compiled types -/

namespace TypeStore

variable {s : TypeStore} {t : CompiledType}

theorem flavor_schemaType (s : TypeStore) (t : CompiledType) : (s.schemaType t).value.flavor = t.flavor := by
  unfold schemaType
  split
  · rename_i h
    exact h.symm
  · rename_i h
    exact h.symm

theorem name_schemaType (s : TypeStore) (t : CompiledType) : (s.schemaType t).value.name = t.name := by
  unfold schemaType
  split <;> rfl

theorem offers_ofScalar (s : TypeStore) (flavor : Flavor) (scalar : Scalar) :
    s.Offers flavor (TypeRef.ofScalar scalar).name := .inl ⟨scalar, rfl⟩

/-- A field whose relation, if it is one, leads to a finished type of this flavor. -/
def ResolvedAs (s : TypeStore) (flavor : Flavor) (f : CompiledField) : Prop :=
  ∀ handle r, f.type = .relation handle r → ∃ target, s.get? handle = some target ∧ target.flavor = flavor

theorem ResolvedAs.offers {flavor : Flavor} {f : CompiledField} (h : s.ResolvedAs flavor f) {handle : Nat}
    {r : Relation} (hr : f.type = .relation handle r) {target : CompiledType} (hget : s.get? handle = some target) :
    s.Offers flavor target.name := by
  obtain ⟨target', hget', hfl⟩ := h handle r hr
  rw [hget] at hget'
  cases hget'
  exact .inr ⟨target, mem_types_iff.2 ⟨handle, hget⟩, hfl, rfl⟩

theorem offers_of_outputField? {f : CompiledField} (h : s.ResolvedAs .output f) {g : OutputField}
    (hg : (s.outputField? t f).value = some g) :
    s.Offers .output g.type.name ∧ ∀ a ∈ g.arguments.entries, s.Offers .input a.2.name := by
  unfold outputField? at hg
  split at hg
  · rename_i scalar _
    cases hg
    exact ⟨s.offers_ofScalar .output scalar, fun a ha => absurd ha List.not_mem_nil⟩
  · rename_i hr
    split at hg
    · rename_i hget
      cases hg
      exact ⟨h.offers hr hget, fun a ha => absurd ha List.not_mem_nil⟩
    · cases hg

theorem offers_of_inputField? {f : CompiledField} (h : s.ResolvedAs .input f) {g : InputField}
    (hg : s.inputField? f = some g) : s.Offers .input g.type.name := by
  unfold inputField? at hg
  split at hg
  · rename_i scalar _
    cases hg
    exact s.offers_ofScalar .input scalar
  · rename_i hr
    obtain ⟨target, hget, rfl⟩ := Option.map_eq_some_iff.1 hg
    exact h.offers hr hget

/-- **A type whose relations lead to types of its own flavor mentions only what the store offers.** -/
theorem mentions_schemaType (h : ∀ f ∈ t.fields, s.ResolvedAs t.flavor f) :
    (s.schemaType t).value.MentionsOnly s.Offers := by
  unfold schemaType
  cases hfl : t.flavor with
  | output =>
    rw [hfl] at h
    change ∀ g ∈ (s.outputType t).value.fields, _
    intro g hg
    rcases mem_outputType hg with rfl | ⟨f, hf, hg⟩
    · exact ⟨s.offers_ofScalar .output .string, fun a ha => absurd ha List.not_mem_nil⟩
    · exact offers_of_outputField? (h f hf) hg
  | input =>
    rw [hfl] at h
    change ∀ g ∈ (s.inputType t).fields, _
    intro g hg
    rcases mem_inputType hg with rfl | ⟨f, hf, hg⟩
    · exact s.offers_ofScalar .input .string
    · exact offers_of_inputField? (h f hf) hg

end TypeStore

theorem Compiler.Settled.mentions {c : Compiler} {s : TypeStore} (h : c.Settled s) {type : CompiledType}
    (ht : type ∈ s.types) : (s.schemaType type).value.MentionsOnly s.Offers := by
  obtain ⟨i, hi⟩ := TypeStore.mem_types_iff.1 ht
  refine TypeStore.mentions_schemaType fun f hf handle r hr => ?_
  obtain ⟨target, _, hget, hfl, _⟩ := h.relation hi hf hr
  exact ⟨target, hget, hfl⟩

/-! ## Roots -/

theorem Roots.mentions_outputType {r : Roots} {kind : RootKind} {s : TypeStore}
    (h : Roots.Orderly (fun f => f.ClosedIn s) (r.fields kind)) :
    (SchemaType.output (r.outputType kind)).MentionsOnly s.Offers := by
  intro g hg
  rcases Roots.mem_outputType hg with rfl | ⟨f, hf, rfl⟩
  · exact ⟨s.offers_ofScalar .output .string, fun a ha => absurd ha List.not_mem_nil⟩
  · obtain ⟨e, he, rfl⟩ := List.mem_map.1 hf
    have hclosed := h.field e he
    exact ⟨hclosed.returns, fun a ha => hclosed.arguments a (Entries.mem_ofList ha)⟩

/-! ## Tables -/

namespace TypeTable

variable {table : TypeTable} {name : String}

theorem resolves_of_flavor {flavor : Flavor} (h : IsScalarName name ∨ name ∈ table.keys)
    (hflavor : ∀ t, table.type? name = some t → t.flavor = flavor) : table.Resolves flavor name := by
  refine h.imp_right fun hmem => ?_
  cases ht : table.type? name with
  | none => exact absurd hmem ((Dict.get?_eq_none_iff table name).1 ht)
  | some t => exact ⟨t, rfl, hflavor t ht⟩

theorem flavor_of_input?_eq_none (h : (table.input? name).isSome = false) :
    ∀ t, table.type? name = some t → t.flavor = .output
  | .output _, _ => rfl
  | .input _, ht => by
    unfold input? at h
    rw [ht] at h
    cases h

theorem flavor_of_output?_eq_none (h : (table.output? name).isSome = false) :
    ∀ t, table.type? name = some t → t.flavor = .input
  | .input _, _ => rfl
  | .output _, ht => by
    unfold output? at h
    rw [ht] at h
    cases h

theorem eq_false_of_offence {b : Bool} {r : Refusal} (h : offence b r = []) : b = false := by
  cases b with
  | false => rfl
  | true => cases h

/-- **In a table that is not refused, names that are known at all lead to types of the right flavor.** -/
theorem mentions_of_refusal?_eq_none (h : table.refusal? = none) {t : SchemaType} (ht : t ∈ table.values)
    (hknown : t.MentionsOnly fun _ name => IsScalarName name ∨ name ∈ table.keys) :
    t.MentionsOnly table.Resolves := by
  have hoff := List.head?_eq_none_iff.1 h
  unfold offences at hoff
  obtain ⟨hoff, hinputs⟩ := List.append_eq_nil_iff.1 hoff
  obtain ⟨_, houtputs⟩ := List.append_eq_nil_iff.1 hoff
  cases t with
  | output o =>
    intro f hf
    have ho := List.flatMap_eq_nil_iff.1 houtputs o (List.mem_filterMap.2 ⟨_, ht, rfl⟩)
    have hfo := List.flatMap_eq_nil_iff.1 ho f hf
    unfold outputFieldOffences at hfo
    obtain ⟨hfo, harguments⟩ := List.append_eq_nil_iff.1 hfo
    obtain ⟨_, hreturned⟩ := List.append_eq_nil_iff.1 hfo
    refine ⟨resolves_of_flavor (hknown f hf).1 (flavor_of_input?_eq_none (eq_false_of_offence hreturned)),
      fun a ha => ?_⟩
    have hao := List.flatMap_eq_nil_iff.1 harguments a ha
    unfold argumentOffences at hao
    obtain ⟨_, haccepted⟩ := List.append_eq_nil_iff.1 hao
    exact resolves_of_flavor ((hknown f hf).2 a ha) (flavor_of_output?_eq_none (eq_false_of_offence haccepted))
  | input i =>
    intro f hf
    have hi := List.flatMap_eq_nil_iff.1 hinputs i (List.mem_filterMap.2 ⟨_, ht, rfl⟩)
    have hfo := List.flatMap_eq_nil_iff.1 hi f hf
    unfold inputFieldOffences at hfo
    obtain ⟨_, haccepted⟩ := List.append_eq_nil_iff.1 hfo
    exact resolves_of_flavor (hknown f hf) (flavor_of_output?_eq_none (eq_false_of_offence haccepted))

end TypeTable

/-! ## Assemblies -/

namespace Assembly

/-- What is handed over after types were compiled into `s`. -/
structure Closed (a : Assembly) (s : TypeStore) : Prop where
  /-- All compiled types, whenever they were compiled, and no others. -/
  types : a.types = s.types.map fun t => (s.schemaType t).value
  mentions : ∀ t ∈ a.schemaTypes, t.MentionsOnly a.Registers
  /-- A compiled type has a placeholder just when it has nothing else. -/
  fieldNames : ∀ t ∈ s.types, (s.schemaType t).value.fieldNames =
    if t.fields = [] then [placeholderName] else t.fieldNames
  /-- So has a root. -/
  rootNames : ∀ kind, (SchemaType.output (a.roots.outputType kind)).fieldNames =
    if (a.roots.fields kind).keys = [] then [placeholderName] else (a.roots.fields kind).keys
  inhabited : ∀ t ∈ a.schemaTypes, t.fieldNames ≠ []

variable {a : Assembly} {s : TypeStore}

theorem registers_of_offers (h : a.types = s.types.map fun t => (s.schemaType t).value) {flavor : Flavor}
    {name : String} (ho : s.Offers flavor name) : a.Registers flavor name := by
  refine ho.imp_right ?_
  rintro ⟨type, hmem, hfl, rfl⟩
  refine ⟨(s.schemaType type).value, ?_, by rw [TypeStore.flavor_schemaType, hfl], TypeStore.name_schemaType s type⟩
  rw [h]
  exact List.mem_map_of_mem hmem

theorem mem_keys_table {t : SchemaType} (h : t ∈ a.types) : t.name ∈ a.table.keys :=
  Dict.mem_keys_ofList (List.mem_map_of_mem (List.mem_append_left _ h))

theorem mem_of_mem_table {t : SchemaType} (h : t ∈ a.table.values) : t ∈ a.schemaTypes := by
  obtain ⟨e, he, rfl⟩ := List.mem_map.1 h
  obtain ⟨t, ht, rfl⟩ := List.mem_map.1 (Entries.mem_ofList he)
  exact ht

/-- The table of a closed assembly, unless it is refused, is closed too. -/
theorem Closed.table (h : a.Closed s) (hr : a.table.refusal? = none) :
    ∀ t ∈ a.table.values, t.MentionsOnly a.table.Resolves := by
  intro t ht
  refine TypeTable.mentions_of_refusal?_eq_none hr ht ((h.mentions t (mem_of_mem_table ht)).mono ?_)
  rintro flavor name (hscalar | ⟨type, htype, _, rfl⟩)
  · exact .inl hscalar
  -- a later type of this name may have taken its place, but the name is there
  · exact .inr (mem_keys_table htype)

theorem table_of_toSchema {settings : Settings} {schema : Schema} (h : a.toSchema settings = .ok schema) :
    schema.table = a.table ∧ a.table.refusal? = none := by
  unfold toSchema at h
  split at h
  · cases h
  · split at h
    · cases h
    · rename_i hr
      cases h
      exact ⟨rfl, hr⟩

end Assembly

/-! ## Whole builds -/

namespace Builder

variable {b : Builder}

theorem placeholder_or_ne_nil {α : Type} {fields : List α} {names : List String} (h : names = [] → fields = []) :
    (if fields = [] then [placeholderName] else names) ≠ [] := by
  split
  · exact List.cons_ne_nil _ _
  · rename_i hne
    exact fun hnil => hne (h hnil)

theorem forall_schemaTypes {P : SchemaType → Prop}
    (htypes : ∀ t ∈ b.prepared.2.types, P (b.prepared.2.schemaType t).value)
    (hroots : ∀ kind, P (.output (b.assembly.roots.outputType kind))) : ∀ t ∈ b.assembly.schemaTypes, P t := by
  refine List.forall_mem_append.2 ⟨?_, fun t ht => ?_⟩
  · rw [types_assembly, List.forall_mem_map]
    exact htypes
  · obtain ⟨kind, rfl, _⟩ := Roots.mem_schemaTypes ht
    exact hroots kind

theorem closed_assembly (hs : b.compiler.Settled b.store) : b.assembly.Closed b.prepared.2 := by
  have hp := settled_prepared hs
  have hregisters : ∀ flavor name, b.prepared.2.Offers flavor name → b.assembly.Registers flavor name :=
    fun _ _ => Assembly.registers_of_offers (types_assembly b)
  have hnames : ∀ t ∈ b.prepared.2.types, (b.prepared.2.schemaType t).value.fieldNames =
      if t.fields = [] then [placeholderName] else t.fieldNames := fun t ht =>
    TypeStore.fieldNames_schemaType (hp.resolved ht)
  have hroots : ∀ kind, (SchemaType.output (b.assembly.roots.outputType kind)).fieldNames =
      if (b.assembly.roots.fields kind).keys = [] then [placeholderName] else (b.assembly.roots.fields kind).keys :=
    fun kind => Roots.fieldNames_outputType (orderly_roots hs kind)
  refine ⟨types_assembly b, forall_schemaTypes (fun t ht => ?_) fun kind => ?_, hnames, hroots,
    forall_schemaTypes (fun t ht => ?_) fun kind => ?_⟩
  · exact (hp.mentions ht).mono hregisters
  · exact (Roots.mentions_outputType (orderly_roots hs kind)).mono hregisters
  · rw [hnames t ht]
    exact placeholder_or_ne_nil List.map_eq_nil_iff.1
  · rw [hroots kind]
    exact placeholder_or_ne_nil id

/-- **Whatever was done with a builder, what it builds is closed**, and so is the table of the schema, if there is
one. -/
theorem build_closed (registry : Registry) (settings : Settings) (steps : List BuilderStep) :
    let b := (Builder.new registry settings).run steps
    b.assembly.Closed b.build.value.2.store ∧
      ∀ schema, b.build.value.1 = .ok schema → ∀ t ∈ schema.table.values, t.MentionsOnly schema.table.Resolves := by
  intro b
  have hclosed : b.assembly.Closed b.prepared.2 := closed_assembly (settled_run registry settings steps)
  refine ⟨hclosed, fun schema hschema => ?_⟩
  obtain ⟨htable, hr⟩ := Assembly.table_of_toSchema (a := b.assembly) hschema
  rw [htable]
  exact hclosed.table hr

end Builder

end EntityGraph
