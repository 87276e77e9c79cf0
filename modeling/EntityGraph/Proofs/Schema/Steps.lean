import EntityGraph.Proofs.Schema.Preparation
import EntityGraph.Proofs.Schema.Roots
/-!
# Builders step by step

Models and resolvers are registered and schemas are built in any order and any number of times. All that this does to
the types is to request some of them, so that a builder's store is one that requests leave (`exists_requests`), and
everything that holds of such stores holds of it. A build hands over the types of its store and the two roots
(`Builder.build_value`); the fields of the roots mention only what that store has (`Builder.orderly_roots`): output
types where they return something, input types where they take an argument.
-/

namespace EntityGraph

/-! ## Names that are good -/

def IsScalarName (name : String) : Prop := ∃ scalar : Scalar, name = scalar.name

/-- The name of a scalar, or of a type of this flavor that the store has. -/
def TypeStore.Offers (s : TypeStore) (flavor : Flavor) (name : String) : Prop :=
  IsScalarName name ∨ ∃ type ∈ s.types, type.flavor = flavor ∧ name = type.name

/-- A root field returns an output type of the store, or a scalar, and its arguments are input types or scalars. -/
structure RootField.ClosedIn (f : RootField) (s : TypeStore) : Prop where
  returns : s.Offers .output f.returns.name
  arguments : ∀ a ∈ f.arguments, s.Offers .input a.2.name

namespace Blueprint

variable {b : Blueprint} {s : TypeStore} {flavor : Flavor} {t type : TypeRef} {i : ResolverInstance} {m : Method}
  {f : RootField}

theorem offers_of_typeIn? (hs : b.compiler.Settled s) (h : b.typeIn? s flavor t = some type) :
    s.Offers flavor type.name := by
  unfold typeIn? at h
  split at h
  · rename_i scalar _
    cases h
    exact .inl ⟨scalar, rfl⟩
  · obtain ⟨e, he, rfl⟩ := Option.map_eq_some_iff.1 h
    obtain ⟨model, _, he⟩ := Option.bind_eq_some_iff.1 he
    obtain ⟨compiled, hlookup, rfl⟩ := Option.map_eq_some_iff.1 he
    obtain ⟨hmem, hflavor, _⟩ := (hs.lookup?_eq_some_iff (q := ⟨flavor, model.className⟩)).1 hlookup
    exact .inr ⟨compiled, hmem, hflavor, rfl⟩

theorem closedIn_of_fieldIn? (hs : b.compiler.Settled s) (h : b.fieldIn? s i m = some f) : f.ClosedIn s := by
  have harguments := (of_fieldIn? h).2.1
  refine ⟨?_, fun a ha => ?_⟩
  · unfold fieldIn? at h
    split at h
    · rename_i hreturns _
      cases h
      obtain ⟨returns, _, htype⟩ := Option.bind_eq_some_iff.1 hreturns
      exact offers_of_typeIn? hs htype
    · cases h
  · rw [harguments] at ha
    obtain ⟨taken, _, ha⟩ := List.mem_filterMap.1 ha
    obtain ⟨type, htype, rfl⟩ := Option.map_eq_some_iff.1 ha
    exact offers_of_typeIn? hs htype

end Blueprint

/-- All object and input types that a build hands over, the roots last. -/
def Assembly.schemaTypes (a : Assembly) : List SchemaType := a.types ++ a.roots.schemaTypes

inductive BuilderStep
  | registerModels (classNames : List String)
  | registerResolvers (sources : List ResolverSource)
  | build

namespace Builder

variable {b b' : Builder}

/-- The builder after a step, whether or not a build gave a schema. -/
def step (b : Builder) : BuilderStep → Builder
  | .registerModels classNames => (b.registerModels classNames).value
  | .registerResolvers sources => b.registerResolvers sources
  | .build => b.build.value.2

def run (b : Builder) (steps : List BuilderStep) : Builder := steps.foldl step b

/-! ## What a step does to the types -/

/-- The same declarations and settings, and a store that some requests leave. -/
structure Follows (b b' : Builder) : Prop where
  registry : b'.registry = b.registry
  settings : b'.settings = b.settings
  store : ∃ requests : List TypeRequest, b'.store = requests.foldl b.compiler.storeOf b.store

theorem Follows.compiler (h : b.Follows b') : b'.compiler = b.compiler := by
  unfold Builder.compiler blueprint
  rw [h.registry, h.settings]

theorem Follows.refl (b : Builder) : b.Follows b := ⟨rfl, rfl, [], rfl⟩

theorem Follows.trans {b'' : Builder} (h : b.Follows b') (h' : b'.Follows b'') : b.Follows b'' where
  registry := h'.registry.trans h.registry
  settings := h'.settings.trans h.settings
  store := by
    obtain ⟨requests, hr⟩ := h.store
    obtain ⟨more, hm⟩ := h'.store
    rw [h.compiler, hr] at hm
    exact ⟨requests ++ more, by rw [hm, List.foldl_append]⟩

theorem Follows.settled (h : b.Follows b') (hs : b.compiler.Settled b.store) : b'.compiler.Settled b'.store := by
  obtain ⟨requests, hr⟩ := h.store
  rw [h.compiler, hr]
  exact hs.foldl requests

theorem follows_registerModel (b : Builder) (className : String) : b.Follows (b.registerModel className).value := by
  unfold registerModel
  rw [Logged.value_bind]
  dsimp only
  split
  · exact ⟨rfl, rfl, [⟨.output, className⟩], rfl⟩
  · exact ⟨rfl, rfl, [⟨.output, className⟩, ⟨.input, className⟩], rfl⟩

theorem follows_registerModels : ∀ (classNames : List String) (b : Builder),
    b.Follows (b.registerModels classNames).value
  | [], b => .refl b
  | className :: classNames, b =>
    (follows_registerModel b className).trans (follows_registerModels classNames (b.registerModel className).value)

theorem follows_registerResolvers : ∀ (sources : List ResolverSource) (b : Builder),
    b.Follows (b.registerResolvers sources)
  | [], b => .refl b
  | source :: sources, b =>
    have hfirst : b.Follows (b.registerResolver source) := ⟨rfl, rfl, [], rfl⟩
    hfirst.trans (follows_registerResolvers sources (b.registerResolver source))

/-! ## Builds -/

/-- The fields of the waiting instances, resolver by resolver, and the store that preparing them leaves. -/
def prepared (b : Builder) : List (List RootField) × TypeStore :=
  ((b.blueprint.prepareResolvers b.resolvers).run b.store).value

/-- The field that the next build gives for a method. -/
def fieldOf? (b : Builder) (e : ResolverInstance × Method) : Option RootField :=
  b.blueprint.fieldIn? b.prepared.2 e.1 e.2

/-- What a build hands over. -/
def assembly (b : Builder) : Assembly := b.assemble.value.1

/-- **A build checks what it hands over**, and leaves the store and no instances. -/
theorem build_value (b : Builder) :
    b.build.value = (b.assembly.toSchema b.settings, { b with store := b.prepared.2, resolvers := [] }) := rfl

theorem yields_prepared (hs : b.compiler.Settled b.store) :
    Building.Yields b.compiler b.store (b.blueprint.prepareResolvers b.resolvers)
      (b.resolvers.flatMap fun i => b.registry.remarksOnClass b.settings.contextTypeName i.className)
      fun prepared u =>
        prepared = b.resolvers.map (fun i => (b.registry.methods i.className).filterMap (b.blueprint.fieldIn? u i)) ∧
          ∀ i ∈ b.resolvers, ∀ m ∈ b.registry.methods i.className, b.blueprint.Serves u i m :=
  Blueprint.yields_prepareResolvers (b := b.blueprint) b.resolvers hs

theorem settled_prepared (hs : b.compiler.Settled b.store) : b.compiler.Settled b.prepared.2 :=
  ((yields_prepared hs).settled_grows hs).1

theorem prepared_eq (hs : b.compiler.Settled b.store) :
    b.prepared.1 = b.resolvers.map (fun i => (b.registry.methods i.className).filterMap fun m => b.fieldOf? (i, m)) ∧
      ∀ i ∈ b.resolvers, ∀ m ∈ b.registry.methods i.className, b.blueprint.Serves b.prepared.2 i m :=
  (yields_prepared hs).at_end hs

theorem follows_build (hs : b.compiler.Settled b.store) : b.Follows b.build.value.2 :=
  ⟨rfl, rfl, (yields_prepared hs).store⟩

theorem orderly_roots (hs : b.compiler.Settled b.store) (kind : RootKind) :
    Roots.Orderly (fun f => f.ClosedIn b.prepared.2) (b.assembly.roots.fields kind) := by
  have hclosed : ∀ fields ∈ b.prepared.1, ∀ f ∈ fields, f.ClosedIn b.prepared.2 := by
    intro fields hfields f hf
    rw [(prepared_eq hs).1] at hfields
    obtain ⟨i, _, rfl⟩ := List.mem_map.1 hfields
    obtain ⟨m, _, hm⟩ := List.mem_filterMap.1 hf
    exact Blueprint.closedIn_of_fieldIn? (settled_prepared hs) hm
  exact Roots.orderly_ofResolvers hclosed kind

/-! ## Whole runs -/

theorem follows_step (hs : b.compiler.Settled b.store) (step : BuilderStep) : b.Follows (b.step step) := by
  cases step with
  | registerModels classNames => exact follows_registerModels classNames b
  | registerResolvers sources => exact follows_registerResolvers sources b
  | build => exact follows_build hs

theorem follows_run : ∀ (steps : List BuilderStep) {b : Builder}, b.compiler.Settled b.store → b.Follows (b.run steps)
  | [], b, _ => .refl b
  | step :: steps, _, hs => (follows_step hs step).trans (follows_run steps ((follows_step hs step).settled hs))

variable (registry : Registry) (settings : Settings) (steps : List BuilderStep)

/-- **Whatever is done with a builder, its store is one that requests leave.** -/
theorem exists_requests : ∃ requests : List TypeRequest, ((new registry settings).run steps).store =
    (new registry settings).compiler.storeAfter requests :=
  (follows_run steps (Compiler.settled_empty _)).store

theorem registry_run : ((new registry settings).run steps).registry = registry :=
  (follows_run steps (Compiler.settled_empty _)).registry

theorem settings_run : ((new registry settings).run steps).settings = settings :=
  (follows_run steps (Compiler.settled_empty _)).settings

theorem blueprint_run : ((new registry settings).run steps).blueprint = (new registry settings).blueprint := by
  unfold blueprint
  rw [registry_run, settings_run]
  rfl

theorem settled_run :
    ((new registry settings).run steps).compiler.Settled ((new registry settings).run steps).store := by
  obtain ⟨requests, hstore⟩ := exists_requests registry settings steps
  have hcompiler : ((new registry settings).run steps).compiler = (new registry settings).compiler :=
    congrArg Blueprint.compiler (blueprint_run registry settings steps)
  rw [hstore, hcompiler]
  exact Compiler.settled_storeAfter _ requests

end Builder

end EntityGraph
