import EntityGraph.Proofs.KeyedLog
import EntityGraph.Proofs.Schema.Exposure
import EntityGraph.Proofs.Schema.FieldNames
/-!
# Which fields the roots keep

Resolver by resolver, and method by method in order of declaration, every exposed method is entered into the root of
its kind under its exposed name. A name that is there already keeps its place and gets the later method's field, and
just this is noted. So of the exposed methods of a kind the first of each name decides on the place and the last on
the field, and as many repetitions are noted as there are methods beyond the first of a name (`build_roots`). What is
entered into one root makes no difference to the other.
-/

namespace EntityGraph

/-! ## What is entered -/

namespace Roots

theorem addFields_value (kind : RootKind) : ∀ (fs : List RootField) (root : Dict RootField),
    (addFields kind root fs).value = root.insertAll (fs.map fun f => (f.name, f))
  | [], _ => rfl
  | f :: fs, root => by
    unfold addFields
    rw [Logged.value_bind, addField_value, addFields_value kind fs]
    rfl

theorem fields_addResolver (r : Roots) (fs : List RootField) (kind : RootKind) :
    (r.addResolver fs).value.fields kind = (addFields kind (r.fields kind) (fs.filter (·.kind == kind))).value := by
  cases kind <;> rfl

theorem fields_addResolvers (kind : RootKind) : ∀ (prepared : List (List RootField)) (r : Roots),
    (r.addResolvers prepared).value.fields kind =
      (addFields kind (r.fields kind) (prepared.flatten.filter (·.kind == kind))).value
  | [], _ => rfl
  | fs :: prepared, r => by
    have hrest := fields_addResolvers kind prepared (r.addResolver fs).value
    rw [fields_addResolver, addFields_value, addFields_value] at hrest
    unfold addResolvers
    rw [Logged.value_bind, hrest, addFields_value, List.flatten_cons, List.filter_append, List.map_append,
      Dict.insertAll_append]

/-- **A root has the fields of its kind, whichever resolvers they came from.** -/
theorem fields_ofResolvers (prepared : List (List RootField)) (kind : RootKind) :
    (ofResolvers prepared).value.fields kind =
      Dict.ofList ((prepared.flatten.filter (·.kind == kind)).map fun f => (f.name, f)) := by
  have hempty : ({} : Roots).fields kind = .empty := by cases kind <;> rfl
  unfold ofResolvers
  rw [fields_addResolvers, hempty, addFields_value]
  rfl

end Roots

/-! ## What is noted -/

/-- A note on a repetition in the root of this kind. -/
def Diagnostic.repeats (kind : RootKind) : Diagnostic → Bool
  | .duplicateRootField root _ => root == kind.typeName
  | _ => false

theorem Diagnostic.repeats_eq_false {d : Diagnostic} (h : d.isRepetition = false) (kind : RootKind) :
    d.repeats kind = false := by
  cases d with
  | duplicateRootField _ _ => cases h
  | _ => rfl

theorem Diagnostic.repeats_duplicateRootField (kind other : RootKind) (name : String) :
    (duplicateRootField other.typeName name).repeats kind = decide (other = kind) := by
  cases kind <;> cases other <;> rfl

namespace Roots

variable {kind other : RootKind}

theorem countP_addField (kind : RootKind) (root : Dict RootField) (f : RootField) :
    (addField kind root f).log.countP (Diagnostic.repeats kind) + (addField kind root f).value.size =
      root.size + 1 := by
  rw [addField_value, Dict.size_insert]
  unfold addField
  by_cases hc : root.contains f.name = true
  · simp [hc, Logged.noting, Diagnostic.repeats_duplicateRootField, Nat.add_comm]
  · simp [hc]

theorem countP_addField_of_ne (h : other ≠ kind) (root : Dict RootField) (f : RootField) :
    (addField other root f).log.countP (Diagnostic.repeats kind) = 0 := by
  unfold addField
  split
  · simp [Logged.noting, Diagnostic.repeats_duplicateRootField, h]
  · rfl

theorem countP_addFields (kind : RootKind) : ∀ (fs : List RootField) (root : Dict RootField),
    (addFields kind root fs).log.countP (Diagnostic.repeats kind) + (addFields kind root fs).value.size =
      root.size + fs.length
  | [], root => Nat.zero_add _
  | f :: fs, root => by
    have hfirst := countP_addField kind root f
    have hrest := countP_addFields kind fs (addField kind root f).value
    unfold addFields
    rw [Logged.log_bind, Logged.value_bind, List.countP_append, List.length_cons]
    omega

theorem countP_addFields_of_ne (h : other ≠ kind) : ∀ (fs : List RootField) (root : Dict RootField),
    (addFields other root fs).log.countP (Diagnostic.repeats kind) = 0
  | [], _ => rfl
  | f :: fs, root => by
    unfold addFields
    rw [Logged.log_bind, List.countP_append, countP_addField_of_ne h, countP_addFields_of_ne h fs]

/-- What one resolver adds is either a new name or a repetition. -/
theorem countP_addResolver (r : Roots) (fs : List RootField) (kind : RootKind) :
    (r.addResolver fs).log.countP (Diagnostic.repeats kind) + ((r.addResolver fs).value.fields kind).size =
      (r.fields kind).size + (fs.filter (·.kind == kind)).length := by
  have hlog : (r.addResolver fs).log = (addFields .query r.query (fs.filter (·.kind == .query))).log ++
      ((addFields .mutation r.mutation (fs.filter (·.kind == .mutation))).log ++ []) := rfl
  have hself := countP_addFields kind (fs.filter (·.kind == kind)) (r.fields kind)
  rw [hlog, List.append_nil, List.countP_append, fields_addResolver]
  cases kind with
  | query =>
    have hne : RootKind.mutation ≠ .query := by decide
    rw [countP_addFields_of_ne hne]
    exact hself
  | mutation =>
    have hne : RootKind.query ≠ .mutation := by decide
    rw [countP_addFields_of_ne hne, Nat.zero_add]
    exact hself

theorem countP_addResolvers (kind : RootKind) : ∀ (prepared : List (List RootField)) (r : Roots),
    (r.addResolvers prepared).log.countP (Diagnostic.repeats kind) +
        ((r.addResolvers prepared).value.fields kind).size =
      (r.fields kind).size + (prepared.flatten.filter (·.kind == kind)).length
  | [], r => Nat.zero_add _
  | fs :: prepared, r => by
    have hfirst := countP_addResolver r fs kind
    have hrest := countP_addResolvers kind prepared (r.addResolver fs).value
    unfold addResolvers
    rw [Logged.log_bind, Logged.value_bind, List.countP_append, List.flatten_cons, List.filter_append,
      List.length_append]
    omega

/-- **Every field of a kind is either kept under a new name or noted as a repetition.** -/
theorem countP_ofResolvers (prepared : List (List RootField)) (kind : RootKind) :
    (ofResolvers prepared).log.countP (Diagnostic.repeats kind) +
      ((ofResolvers prepared).value.fields kind).size = (prepared.flatten.filter (·.kind == kind)).length := by
  have hempty : (({} : Roots).fields kind).size = 0 := by cases kind <;> rfl
  have hcount := countP_addResolvers kind prepared {}
  rw [hempty, Nat.zero_add] at hcount
  exact hcount

end Roots

/-! ## The roots of a build -/

namespace Builder

variable {b : Builder}

/-- The exposed methods of one kind. -/
def exposuresOf (b : Builder) (kind : RootKind) : List (ResolverInstance × Method) :=
  b.exposures.filter (·.2.kind == some kind)

theorem filter_prepared (hs : b.compiler.Settled b.store) (kind : RootKind) :
    b.prepared.1.flatten.filter (·.kind == kind) = (b.exposuresOf kind).filterMap b.fieldOf? := by
  rw [(fields_prepared hs).2, List.filter_filterMap, exposuresOf, List.filterMap_filter]
  refine List.filterMap_congr fun e _ => ?_
  cases hf : b.fieldOf? e with
  | none => split <;> rfl
  | some f =>
    rw [(isOf_fieldOf? hf).kind, Option.filter_some]
    rfl

theorem getLast?_filterMap_of_some {α β : Type} {g : α → Option β} (items : List α)
    (h : ∀ a ∈ items, ∃ b, g a = some b) : (items.filterMap g).getLast? = items.getLast?.bind g := by
  induction items using List.reverseRecOn with
  | nil => rfl
  | append_singleton items a =>
    obtain ⟨b, hb⟩ := h a (List.mem_append_right _ (List.mem_singleton_self a))
    rw [List.filterMap_append, List.getLast?_concat, Option.bind_some, hb]
    simp [hb]

theorem roots_eq (hs : b.compiler.Settled b.store) (kind : RootKind) : b.assembly.roots.fields kind =
    Dict.ofList (((b.exposuresOf kind).filterMap b.fieldOf?).map fun f => (f.name, f)) := by
  rw [← filter_prepared hs]
  exact Roots.fields_ofResolvers b.prepared.1 kind

theorem exists_field_of_mem (hs : b.compiler.Settled b.store) {kind : RootKind} {e : ResolverInstance × Method}
    (he : e ∈ b.exposuresOf kind) : ∃ f, b.fieldOf? e = some f := (fields_prepared hs).1 e (List.mem_filter.1 he).1

theorem keys_roots (hs : b.compiler.Settled b.store) (kind : RootKind) :
    (b.assembly.roots.fields kind).keys = ((b.exposuresOf kind).map (·.2.exposedName)).eraseDups := by
  rw [roots_eq hs, Dict.keys_ofList, List.map_map, List.map_filterMap, ← List.filterMap_eq_map]
  refine congrArg List.eraseDups (List.filterMap_congr fun e he => ?_)
  obtain ⟨f, hf⟩ := exists_field_of_mem hs he
  rw [hf, Option.map_some]
  exact congrArg some (isOf_fieldOf? hf).name

theorem get?_roots (hs : b.compiler.Settled b.store) (kind : RootKind) (name : String) :
    (b.assembly.roots.fields kind).get? name =
      (((b.exposuresOf kind).filter (·.2.exposedName == name)).getLast?).bind b.fieldOf? := by
  -- a field has the exposed name of its method, so that it makes no difference which of the two is asked for
  have hnamed : ((b.exposuresOf kind).filterMap b.fieldOf?).filter (·.name == name) =
      ((b.exposuresOf kind).filter (·.2.exposedName == name)).filterMap b.fieldOf? := by
    rw [List.filter_filterMap, List.filterMap_filter]
    refine List.filterMap_congr fun e _ => ?_
    cases hf : b.fieldOf? e with
    | none => split <;> rfl
    | some f => rw [Option.filter_some, (isOf_fieldOf? hf).name]
  have hsome : ∀ e ∈ (b.exposuresOf kind).filter (·.2.exposedName == name), ∃ f, b.fieldOf? e = some f := fun e he =>
    exists_field_of_mem hs (List.mem_filter.1 he).1
  rw [roots_eq hs, Dict.get?_ofList, List.filter_map, List.getLast?_map, Option.map_map,
    ← getLast?_filterMap_of_some _ hsome, ← hnamed]
  exact Option.map_id'

/-! ## What a build notes -/

/-- A build notes what is noted while resolvers are prepared, and then the repetitions. -/
theorem log_build (hs : b.compiler.Settled b.store) : b.build.log =
    ((b.blueprint.prepareResolvers b.resolvers).run b.store).log ++ (Roots.ofResolvers b.prepared.1).log := by
  have hlog : b.build.log = ((b.blueprint.prepareResolvers b.resolvers).run b.store).log ++
    ((Roots.ofResolvers b.prepared.1).log ++ (b.prepared.2.schemaTypes.log ++ [])) ++ [] := rfl
  have htypes : b.prepared.2.schemaTypes.log = [] := (Compiler.schemaTypes_of_settled (settled_prepared hs)).1
  rw [hlog, htypes, List.append_nil, List.append_nil, List.append_nil]

/-- Nothing of what is noted before fields are merged is a repetition. -/
theorem isRepetition_of_mem_log (hs : b.compiler.Settled b.store) {d : Diagnostic}
    (hd : d ∈ ((b.blueprint.prepareResolvers b.resolvers).run b.store).log) : d.isRepetition = false := by
  by_cases ho : d.isOmission = true
  · obtain ⟨_, _, _, rfl⟩ := Diagnostic.isOmission_iff.1 ho
    rfl
  · have hremarks := (yields_prepared hs).remarks
    have hremark : d ∈ Building.remarks (b.blueprint.prepareResolvers b.resolvers) b.store :=
      List.mem_filter.2 ⟨hd, by rw [Bool.not_eq_true] at ho; rw [ho]; rfl⟩
    rw [hremarks] at hremark
    obtain ⟨i, _, hclass⟩ := List.mem_flatMap.1 hremark
    exact Registry.isRepetition_of_mem_remarksOnClass hclass

theorem countP_log_build (hs : b.compiler.Settled b.store) (kind : RootKind) :
    b.build.log.countP (Diagnostic.repeats kind) =
      (Roots.ofResolvers b.prepared.1).log.countP (Diagnostic.repeats kind) := by
  have hprepare :
      ((b.blueprint.prepareResolvers b.resolvers).run b.store).log.countP (Diagnostic.repeats kind) = 0 := by
    rw [List.countP_eq_zero]
    intro d hd
    rw [Diagnostic.repeats_eq_false (isRepetition_of_mem_log hs hd)]
    exact Bool.false_ne_true
  rw [log_build hs, List.countP_append, hprepare, Nat.zero_add]

theorem countP_build (hs : b.compiler.Settled b.store) (kind : RootKind) :
    b.build.log.countP (Diagnostic.repeats kind) + (b.assembly.roots.fields kind).size =
      (b.exposuresOf kind).length := by
  have hsome : ((b.exposuresOf kind).filterMap b.fieldOf?).length = (b.exposuresOf kind).length := by
    rw [List.length_filterMap_eq_countP, List.countP_eq_length]
    intro e he
    obtain ⟨f, hf⟩ := exists_field_of_mem hs he
    rw [hf]
    rfl
  rw [countP_log_build hs, ← hsome, ← filter_prepared hs]
  exact Roots.countP_ofResolvers b.prepared.1 kind

/-! ## The roots of a schema -/

theorem roots_of_build {schema : Schema} (h : b.build.value.1 = .ok schema) : schema.roots = b.assembly.roots := by
  rw [build_value] at h
  unfold Assembly.toSchema at h
  dsimp only at h
  split at h
  · cases h
  · split at h
    · cases h
    · cases h
      rfl

theorem mem_exposuresOf {kind : RootKind} {e : ResolverInstance × Method} :
    e ∈ b.exposuresOf kind ↔ e ∈ b.exposures ∧ e.2.kind = some kind := by
  simp [exposuresOf]

theorem keys_roots_eq_nil_iff (hs : b.compiler.Settled b.store) (kind : RootKind) :
    (b.assembly.roots.fields kind).keys = [] ↔ ∀ e ∈ b.exposures, e.2.kind ≠ some kind := by
  rw [keys_roots hs, List.eq_nil_iff_forall_not_mem]
  simp only [List.mem_eraseDups, List.mem_map, mem_exposuresOf]
  constructor
  · exact fun h e he hkind => h e.2.exposedName ⟨e, ⟨he, hkind⟩, rfl⟩
  · rintro h name ⟨e, ⟨he, hkind⟩, _⟩
    exact h e he hkind

theorem hasMutation_iff (hs : b.compiler.Settled b.store) :
    b.assembly.roots.hasMutation = true ↔ ∃ e ∈ b.exposures, e.2.kind = some .mutation := by
  rw [Roots.hasMutation_iff, ne_eq, keys_roots_eq_nil_iff hs]
  push Not
  rfl

/-- What a build makes of the exposed methods of one kind. -/
structure Merged (b : Builder) (kind : RootKind) (root : Dict RootField) : Prop where
  /-- Names stand where they first occurred. -/
  keys : root.keys = ((b.exposuresOf kind).map (·.2.exposedName)).eraseDups
  /-- The last method of a name gives its field. -/
  get? : ∀ name, root.get? name =
    (((b.exposuresOf kind).filter (·.2.exposedName == name)).getLast?).bind b.fieldOf?
  /-- As many repetitions are noted as there are methods beyond the first of a name. -/
  repeats : b.build.log.countP (Diagnostic.repeats kind) + root.keys.length = (b.exposuresOf kind).length

/-- **The roots of a build.** Every exposed method has a field. Of the methods of its kind, and of no others, each root
keeps the place of the first and the field of the last of each name, and notes the others as repetitions. A schema that
is built has just these roots. -/
theorem build_roots (registry : Registry) (settings : Settings) (steps : List BuilderStep) :
    let b := (Builder.new registry settings).run steps
    (∀ e ∈ b.exposures, ∃ f, b.fieldOf? e = some f ∧ f.IsOf e.1 e.2) ∧
    (∀ kind, b.Merged kind (b.assembly.roots.fields kind)) ∧
    (b.assembly.roots.hasMutation = true ↔ ∃ e ∈ b.exposures, e.2.kind = some .mutation) ∧
    ∀ schema, b.build.value.1 = .ok schema → schema.roots = b.assembly.roots ∧
      schema.queryFields = ((b.exposuresOf .query).map (·.2.exposedName)).eraseDups ∧
      schema.mutationFields = ((b.exposuresOf .mutation).map (·.2.exposedName)).eraseDups ∧
      (schema.hasMutation = true ↔ ∃ e ∈ b.exposures, e.2.kind = some .mutation) := by
  intro b
  have hs : b.compiler.Settled b.store := settled_run registry settings steps
  refine ⟨fun e he => ?_, fun kind => ⟨keys_roots hs kind, get?_roots hs kind, ?_⟩, hasMutation_iff hs,
    fun schema hschema => ?_⟩
  · obtain ⟨f, hf⟩ := (fields_prepared hs).1 e he
    exact ⟨f, hf, isOf_fieldOf? hf⟩
  · have hlength : (b.assembly.roots.fields kind).keys.length = (b.assembly.roots.fields kind).size :=
      List.length_map _
    rw [hlength]
    exact countP_build hs kind
  · have hroots := roots_of_build hschema
    refine ⟨hroots, ?_, ?_, ?_⟩
    · unfold Schema.queryFields
      rw [hroots]
      exact keys_roots hs .query
    · unfold Schema.mutationFields
      rw [hroots]
      exact keys_roots hs .mutation
    · unfold Schema.hasMutation
      rw [hroots]
      exact hasMutation_iff hs

end Builder

end EntityGraph
