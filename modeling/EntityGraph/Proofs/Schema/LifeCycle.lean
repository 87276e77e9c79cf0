import EntityGraph.Proofs.Schema.Merging
import Mathlib.Data.List.DropRight
/-!
# What a builder keeps from step to step

Instances wait for one build only, whatever comes of it. Types and models stay for good: models are added by
registering them and by nothing else, and a type that was compiled for whatever reason is handed over by every later
build, with the same fields under the same handle (`life_cycle`).
-/

namespace EntityGraph

/-! ## Types stay as they are -/

namespace TypeStore

variable {s u : TypeStore} {t : CompiledType}

theorem outputField?_grows (hg : s.Grows u) (t : CompiledType) {f : CompiledField} (h : s.Resolved f) :
    (u.outputField? t f).value = (s.outputField? t f).value := by
  unfold outputField?
  cases hf : f.type with
  | scalar _ => rfl
  | relation handle r =>
    obtain ⟨target, hs⟩ := h handle r hf
    have hu : u.get? handle = some target := hg.get?_eq_some hs
    simp only [hs, hu]

theorem inputField?_grows (hg : s.Grows u) {f : CompiledField} (h : s.Resolved f) :
    u.inputField? f = s.inputField? f := by
  unfold inputField?
  cases hf : f.type with
  | scalar _ => rfl
  | relation handle r =>
    obtain ⟨target, hs⟩ := h handle r hf
    have hu : u.get? handle = some target := hg.get?_eq_some hs
    simp only [hs, hu]

theorem schemaType_grows (hg : s.Grows u) (h : ∀ f ∈ t.fields, s.Resolved f) :
    (u.schemaType t).value = (s.schemaType t).value := by
  unfold schemaType
  cases t.flavor with
  | output =>
    have hfields : t.fields.map (fun f => (u.outputField? t f).value) =
        t.fields.map fun f => (s.outputField? t f).value :=
      List.map_congr_left fun f hf => outputField?_grows hg t (h f hf)
    have houtput : ∀ v : TypeStore, (v.outputType t).value = ⟨t.name, if t.fields.isEmpty then [.placeholder] else
      (t.fields.map fun f => (v.outputField? t f).value).filterMap id⟩ := fun _ => rfl
    rw [Logged.value_bind, Logged.value_bind, houtput, houtput, hfields]
  | input =>
    have hfields : t.fields.filterMap u.inputField? = t.fields.filterMap s.inputField? :=
      List.filterMap_congr fun f hf => inputField?_grows hg (h f hf)
    rw [Logged.value_pure, Logged.value_pure, inputType, inputType, hfields]

theorem Grows.types (hg : s.Grows u) : s.types <+: u.types := hg.slots.filterMap id

end TypeStore

/-- What a store hands over, a later one hands over too, and in the same place. -/
theorem Compiler.Settled.schemaTypes_grows {c : Compiler} {s u : TypeStore} (h : c.Settled s) (hg : s.Grows u) :
    s.schemaTypes.value <+: u.schemaTypes.value := by
  have hvalue : ∀ v : TypeStore, v.schemaTypes.value = v.types.map fun t => (v.schemaType t).value := fun _ => rfl
  have hsame : s.types.map (fun t => (s.schemaType t).value) = s.types.map fun t => (u.schemaType t).value :=
    List.map_congr_left fun t ht => (TypeStore.schemaType_grows hg (h.resolved ht)).symm
  rw [hvalue, hvalue, hsame]
  exact hg.types.map _

/-- The roots that some instances have, as a store has the types of their methods. -/
def Blueprint.rootsOf (b : Blueprint) (s : TypeStore) (is : List ResolverInstance) : Roots :=
  (Roots.ofResolvers (is.map fun i => (b.registry.methods i.className).filterMap (b.fieldIn? s i))).value

/-! ## What a step registers -/

namespace BuilderStep

def isBuild : BuilderStep → Bool
  | .build => true
  | _ => false

def sources : BuilderStep → List ResolverSource
  | .registerResolvers sources => sources
  | _ => []

def classNames : BuilderStep → List String
  | .registerModels classNames => classNames
  | _ => []

/-- The instances of some sources, numbered from `made` on. -/
def instances (made : Nat) (sources : List ResolverSource) : List ResolverInstance :=
  (sources.zipIdx made).map fun s => ⟨s.2, s.1.className, s.1.implementation, s.1.label⟩

/-- The instances of what was registered since the last build, numbered after all that were made before. -/
def waiting (steps : List BuilderStep) : List ResolverInstance :=
  let before := steps.rdropWhile fun s => !s.isBuild
  let since := steps.rtakeWhile fun s => !s.isBuild
  instances (before.flatMap sources).length (since.flatMap sources)

variable {step : BuilderStep}

theorem instances_append (made : Nat) (sources more : List ResolverSource) :
    instances made (sources ++ more) = instances made sources ++ instances (made + sources.length) more := by
  unfold instances
  rw [List.zipIdx_append, List.map_append]

theorem waiting_concat_build (steps : List BuilderStep) : waiting (steps ++ [.build]) = [] := by
  unfold waiting
  rw [List.rtakeWhile_concat_neg _ _ _ (by simp [isBuild])]
  rfl

theorem waiting_concat (h : step.isBuild = false) (steps : List BuilderStep) :
    waiting (steps ++ [step]) = waiting steps ++ instances (steps.flatMap sources).length step.sources := by
  have hsplit := congrArg (fun steps => (steps.flatMap sources).length)
    (List.rdropWhile_append_rtakeWhile (p := fun s : BuilderStep => !s.isBuild) (l := steps))
  simp only [List.flatMap_append, List.length_append] at hsplit
  unfold waiting
  rw [List.rtakeWhile_concat_pos _ _ _ (by simp [h]), List.rdropWhile_concat_pos _ _ _ (by simp [h])]
  dsimp only
  rw [List.flatMap_append, List.flatMap_singleton, instances_append, hsplit]

end BuilderStep

/-! ## What a step does to the instances and the models -/

namespace Builder

open BuilderStep

variable {b : Builder} {step : BuilderStep}

theorem run_concat (b : Builder) (steps : List BuilderStep) (step : BuilderStep) :
    b.run (steps ++ [step]) = (b.run steps).step step := by
  unfold run
  rw [List.foldl_append]
  rfl

theorem registerResolvers_instances : ∀ (sources : List ResolverSource) (b : Builder),
    (b.registerResolvers sources).resolvers = b.resolvers ++ instances b.made sources ∧
      (b.registerResolvers sources).made = b.made + sources.length ∧
      (b.registerResolvers sources).models = b.models
  | [], b => ⟨(List.append_nil _).symm, rfl, rfl⟩
  | source :: sources, b => by
    obtain ⟨hresolvers, hmade, hmodels⟩ := registerResolvers_instances sources (b.registerResolver source)
    refine ⟨hresolvers.trans ?_, hmade.trans ?_, hmodels⟩
    · change b.resolvers ++ [_] ++ instances (b.made + 1) sources = b.resolvers ++ instances b.made (source :: sources)
      rw [List.append_assoc]
      rfl
    · change b.made + 1 + sources.length = b.made + (sources.length + 1)
      omega

theorem registerModel_models (hs : b.compiler.Settled b.store) (className : String) :
    (b.registerModel className).value.models =
        b.models ++ [className].filter (fun c => decide (b.registry.IsEntity c)) ∧
      (b.registerModel className).value.resolvers = b.resolvers ∧
      (b.registerModel className).value.made = b.made := by
  have hnone : (b.compiler.compileOutput className b.store).value.1 = none ↔ ¬ b.registry.IsEntity className :=
    Compiler.request_eq_none_iff hs ⟨.output, className⟩
  unfold registerModel
  rw [Logged.value_bind]
  dsimp only
  cases hanswer : (b.compiler.compileOutput className b.store).value.1 with
  | none =>
    have he : ¬ b.registry.IsEntity className := hnone.1 hanswer
    refine ⟨?_, rfl, rfl⟩
    simp [he]
  | some type =>
    have he : b.registry.IsEntity className := by
      by_contra hne
      rw [hnone.2 hne] at hanswer
      cases hanswer
    refine ⟨?_, rfl, rfl⟩
    simp [he]

theorem registerModels_models : ∀ (classNames : List String) {b : Builder}, b.compiler.Settled b.store →
    (b.registerModels classNames).value.models =
        b.models ++ classNames.filter (fun c => decide (b.registry.IsEntity c)) ∧
      (b.registerModels classNames).value.resolvers = b.resolvers ∧
      (b.registerModels classNames).value.made = b.made
  | [], b, _ => ⟨(List.append_nil _).symm, rfl, rfl⟩
  | className :: classNames, b, hs => by
    have hfollows := follows_registerModel b className
    obtain ⟨hmodels, hresolvers, hmade⟩ := registerModel_models hs className
    obtain ⟨hrest, hresolvers', hmade'⟩ := registerModels_models classNames (hfollows.settled hs)
    refine ⟨hrest.trans ?_, hresolvers'.trans hresolvers, hmade'.trans hmade⟩
    rw [hmodels, hfollows.registry, List.append_assoc, ← List.filter_append]
    rfl

/-- A step other than a build adds the instances and the models that it registers, and a build takes all instances. -/
theorem step_registers (hs : b.compiler.Settled b.store) (step : BuilderStep) :
    (b.step step).resolvers = (if step.isBuild then [] else b.resolvers ++ instances b.made step.sources) ∧
      (b.step step).made = b.made + step.sources.length ∧
      (b.step step).models = b.models ++ step.classNames.filter fun c => decide (b.registry.IsEntity c) := by
  cases step with
  | registerModels classNames =>
    obtain ⟨hmodels, hresolvers, hmade⟩ := registerModels_models classNames hs
    exact ⟨hresolvers.trans (List.append_nil _).symm, hmade, hmodels⟩
  | registerResolvers sources =>
    obtain ⟨hresolvers, hmade, hmodels⟩ := registerResolvers_instances sources b
    exact ⟨hresolvers, hmade, hmodels.trans (List.append_nil _).symm⟩
  | build => exact ⟨rfl, rfl, (List.append_nil _).symm⟩

/-! ## Whole runs -/

theorem grows_run (hs : b.compiler.Settled b.store) (later : List BuilderStep) : b.store.Grows (b.run later).store := by
  obtain ⟨requests, hstore⟩ := (follows_run later hs).store
  rw [hstore]
  exact hs.grows_foldl requests

theorem grows_prepared (hs : b.compiler.Settled b.store) : b.store.Grows b.prepared.2 := grows_run hs [.build]

variable (registry : Registry) (settings : Settings)

theorem run_registers (steps : List BuilderStep) :
    let b := (new registry settings).run steps
    b.resolvers = waiting steps ∧ b.made = (steps.flatMap sources).length ∧
      b.models = (steps.flatMap classNames).filter fun c => decide (registry.IsEntity c) := by
  -- from the end, where the steps since the last build are
  induction steps using List.reverseRecOn with
  | nil => exact ⟨rfl, rfl, rfl⟩
  | append_singleton steps step ih =>
    obtain ⟨hresolvers, hmade, hmodels⟩ := ih
    have hstep := step_registers (settled_run registry settings steps) step
    rw [registry_run, hresolvers, hmade, hmodels] at hstep
    obtain ⟨hresolvers', hmade', hmodels'⟩ := hstep
    rw [run_concat, List.flatMap_append, List.flatMap_append, List.flatMap_singleton, List.flatMap_singleton,
      List.length_append, List.filter_append]
    refine ⟨hresolvers'.trans ?_, hmade', hmodels'⟩
    cases step with
    | build => exact (waiting_concat_build steps).symm
    | registerModels classNames => exact (waiting_concat rfl steps).symm
    | registerResolvers sources => exact (waiting_concat rfl steps).symm

/-- The roots of the next build have the fields of the exposed methods of these instances, and no others. -/
structure ExposesJust (b : Builder) (is : List ResolverInstance) : Prop where
  field : ∀ i ∈ is, ∀ m ∈ b.registry.methods i.className, b.registry.exposes m = true →
    ∃ f, b.fieldOf? (i, m) = some f ∧ f.IsOf i m
  name : ∀ i ∈ is, ∀ m ∈ b.registry.methods i.className, b.registry.exposes m = true → ∀ kind, m.kind = some kind →
    m.exposedName ∈ (b.assembly.roots.fields kind).keys
  origin : ∀ kind name f, (b.assembly.roots.fields kind).get? name = some f → ∃ i ∈ is,
    ∃ m ∈ b.registry.methods i.className, m.kind = some kind ∧ m.exposedName = name ∧ b.fieldOf? (i, m) = some f

theorem exposesJust_resolvers (hs : b.compiler.Settled b.store) : b.ExposesJust b.resolvers where
  field i hi m hm hexposed := by
    obtain ⟨f, hf⟩ := (fields_prepared hs).1 (i, m) (mem_exposures.2 ⟨hi, hm, hexposed⟩)
    exact ⟨f, hf, isOf_fieldOf? hf⟩
  name i hi m hm hexposed kind hkind := by
    have he : (i, m) ∈ b.exposuresOf kind := mem_exposuresOf.2 ⟨mem_exposures.2 ⟨hi, hm, hexposed⟩, hkind⟩
    rw [keys_roots hs, List.mem_eraseDups]
    exact List.mem_map.2 ⟨(i, m), he, rfl⟩
  origin kind name f hf := by
    rw [get?_roots hs] at hf
    obtain ⟨⟨i, m⟩, hlast, hf⟩ := Option.bind_eq_some_iff.1 hf
    obtain ⟨he, hname⟩ := List.mem_filter.1 (List.mem_of_getLast? hlast)
    obtain ⟨he, hkind⟩ := mem_exposuresOf.1 he
    obtain ⟨hi, hm, _⟩ := mem_exposures.1 he
    exact ⟨i, hi, m, hm, hkind, beq_iff_eq.1 hname, hf⟩

/-- **The life cycle of a builder.** After any steps, the instances that wait are those of what was registered since the
last build, whatever came of that; the roots of the next build have the fields of their exposed methods and no others,
and the build leaves none waiting. The models are the entities among the registered classes, in order. Every type keeps
its handle and its fields in all later steps, and all later builds hand it over, each in its place. -/
theorem life_cycle (steps : List BuilderStep) :
    let b := (new registry settings).run steps
    b.resolvers = waiting steps ∧
    b.assembly.roots = b.blueprint.rootsOf b.build.value.2.store (waiting steps) ∧
    b.ExposesJust (waiting steps) ∧
    (∀ schema, b.build.value.1 = .ok schema → schema.roots = b.assembly.roots) ∧
    b.build.value.2.resolvers = [] ∧
    b.models = (steps.flatMap classNames).filter (fun c => decide (registry.IsEntity c)) ∧
    ∀ later,
      (∀ handle type, b.store.get? handle = some type → (b.run later).store.get? handle = some type) ∧
      (∀ type ∈ b.store.types, (b.store.schemaType type).value ∈ (b.run later).assembly.types) ∧
      b.store.schemaTypes.value <+: (b.run later).assembly.types := by
  intro b
  have hs : b.compiler.Settled b.store := settled_run registry settings steps
  obtain ⟨hresolvers, _, hmodels⟩ := run_registers registry settings steps
  refine ⟨hresolvers, ?_, ?_, fun schema => roots_of_build, rfl, hmodels, fun later => ?_⟩
  · have hprepared := (prepared_eq hs).1
    rw [hresolvers] at hprepared
    exact congrArg (fun prepared => (Roots.ofResolvers prepared).value) hprepared
  · rw [← hresolvers]
    exact exposesJust_resolvers hs
  · have hlater := grows_run hs later
    have hsettled : (b.run later).compiler.Settled (b.run later).store := (follows_run later hs).settled hs
    have hkept : b.store.schemaTypes.value <+: (b.run later).assembly.types :=
      hs.schemaTypes_grows (hlater.trans (grows_prepared hsettled))
    exact ⟨fun handle type h => hlater.get?_eq_some h,
      fun type htype => hkept.subset (List.mem_map_of_mem (f := fun t => (b.store.schemaType t).value) htype), hkept⟩

end Builder

end EntityGraph
