import EntityGraph.Proofs.Schema.Merging
/-!
# What is noted while resolvers are prepared

Preparing a method compiles the types that it mentions, and the compiler notes the foreign keys that it omits. Beside
those notes there are only the remarks on the method itself. What other methods are like and what was compiled before
makes no difference to them, nor to whether there is a field (`preparation_reported`). A build notes the remarks on all
its resolvers, and after them only the repetitions in the roots.
-/

namespace EntityGraph

namespace Blueprint

open Building

variable {b : Blueprint} {s : TypeStore} {log : List Declaration}

/-! ## Methods and classes -/

theorem forall₂_isOf {i : ResolverInstance} {ms : List Method} (h : ∀ m ∈ ms, b.Serves s i m) :
    List.Forall₂ (fun m f => f.IsOf i m) (ms.filter b.registry.exposes) (ms.filterMap (b.fieldIn? s i)) :=
  (forall₂_filterMap ms fun m hm => (h m hm).field).imp fun _ _ hf => (of_fieldIn? hf).1

/-- What preparing a method of an instance gives and notes is its own matter. -/
structure ReportsMethod (b : Blueprint) (s : TypeStore) (i : ResolverInstance) (m : Method) : Prop where
  has_field : ((b.prepareMethod i m).run s).value.1.isSome = b.registry.exposes m
  field : ∀ f, ((b.prepareMethod i m).run s).value.1 = some f → f.IsOf i m
  remarks : (b.prepareMethod i m).remarks s = b.registry.remarksOn b.contextTypeName i.className m

/-- Preparing a class gives the fields of its exposed methods and remarks on the others. -/
structure Reports (b : Blueprint) (i : ResolverInstance) (prepared : List RootField) (noted : List Diagnostic) :
    Prop where
  fields : List.Forall₂ (fun m f => f.IsOf i m) ((b.registry.methods i.className).filter b.registry.exposes) prepared
  remarks : noted = b.registry.remarksOnClass b.contextTypeName i.className
  no_methods : b.registry.methods i.className = [] → prepared = [] ∧ noted = [.noMethods i.className]

theorem prepareMethod_reports (hs : b.compiler.Settled s) (i : ResolverInstance) (m : Method) :
    b.ReportsMethod s i m := by
  have hmethod := yields_prepareMethod hs i m
  obtain ⟨hfield, hserves⟩ := hmethod.at_end hs
  refine ⟨?_, fun f hf => ?_, hmethod.remarks⟩
  · rw [hfield]
    exact hserves.field
  · rw [hfield] at hf
    exact (of_fieldIn? hf).1

theorem prepareResolver_reports (hr : b.registry = .ofDeclarations log) (hs : b.compiler.Settled s)
    (i : ResolverInstance) : b.Reports i ((b.prepareResolver i).run s).value.1 ((b.prepareResolver i).remarks s) := by
  have hresolver := yields_prepareResolver hs i
  obtain ⟨hfields, hserves⟩ := hresolver.at_end hs
  have hclass := Registry.remarksOnClass_ofDeclarations log b.contextTypeName i.className
  rw [← hr] at hclass
  refine ⟨?_, hresolver.remarks, fun hnone => ⟨?_, ?_⟩⟩
  · rw [hfields]
    exact forall₂_isOf hserves
  · rw [hfields, hnone, List.filterMap_nil]
  · rw [hresolver.remarks, hclass, hnone]
    rfl

end Blueprint

/-! ## Remarks of a build -/

namespace Roots

theorem repeats_addFields (kind : RootKind) : ∀ (fs : List RootField) (root : Dict RootField),
    ∀ d ∈ (addFields kind root fs).log, d.isRepetition = true
  | [], _, d, hd => absurd hd List.not_mem_nil
  | f :: fs, root, d, hd => by
    rcases List.mem_append.1 hd with hd | hd
    · unfold addField at hd
      split at hd
      · rw [List.mem_singleton.1 hd]
        rfl
      · cases hd
    · exact repeats_addFields kind fs _ d hd

theorem repeats_addResolvers : ∀ (prepared : List (List RootField)) (r : Roots),
    ∀ d ∈ (r.addResolvers prepared).log, d.isRepetition = true
  | [], _, d, hd => absurd hd List.not_mem_nil
  | fs :: prepared, r, d, hd => by
    rcases List.mem_append.1 hd with hd | hd
    · rcases List.mem_append.1 hd with hd | hd
      · exact repeats_addFields .query _ _ d hd
      · rw [Logged.log_bind, Logged.log_pure, List.append_nil] at hd
        exact repeats_addFields .mutation _ _ d hd
    · exact repeats_addResolvers prepared _ d hd

end Roots

namespace Builder

variable {b : Builder}

theorem remarks_build (hs : b.compiler.Settled b.store) :
    ∃ repeated, (∀ d ∈ repeated, d.isRepetition = true) ∧ b.build.log.filter (!·.isOmission) =
      b.resolvers.flatMap (fun i => b.registry.remarksOnClass b.settings.contextTypeName i.className) ++ repeated := by
  have hrepeats := Roots.repeats_addResolvers b.prepared.1 {}
  have hkept : (Roots.ofResolvers b.prepared.1).log.filter (!·.isOmission) = (Roots.ofResolvers b.prepared.1).log := by
    rw [List.filter_eq_self]
    intro d hd
    have hd := hrepeats d hd
    cases d <;> first | rfl | cases hd
  refine ⟨(Roots.ofResolvers b.prepared.1).log, hrepeats, ?_⟩
  rw [log_build hs, List.filter_append, hkept]
  exact congrArg (· ++ _) (yields_prepared hs).remarks

/-- What a build prepares and notes, by the declarations of a registry. -/
structure Reports (b : Builder) (r : Registry) (contextTypeName : String) : Prop where
  fields : List.Forall₂ (fun i fields => List.Forall₂ (fun m f => f.IsOf i m)
    ((r.methods i.className).filter r.exposes) fields) b.resolvers b.prepared.1
  remarks : ∃ repeated, (∀ d ∈ repeated, d.isRepetition = true) ∧ b.build.log.filter (!·.isOmission) =
    b.resolvers.flatMap (fun i => r.remarksOnClass contextTypeName i.className) ++ repeated

theorem build_reports (hs : b.compiler.Settled b.store) : b.Reports b.registry b.settings.contextTypeName := by
  obtain ⟨hprepared, hserves⟩ := prepared_eq hs
  refine ⟨?_, remarks_build hs⟩
  rw [hprepared, List.forall₂_map_right_iff, List.forall₂_same]
  intro i hi
  have hfields := Blueprint.forall₂_isOf (hserves i hi)
  exact hfields

/-- **What is noted while resolvers are prepared.** A method has a field just if its kind, a return type that names a
scalar or an entity, and its handler were declared, whatever was prepared before. Beside the compiler's omissions its
preparation notes the remarks on it, and no more: none without a kind, one of what is missing if it has no field, and
otherwise one for each parameter of unknown type. The fields of a class stand in the order of its methods, and a class
without methods is remarked on once. A build notes this of all its resolvers, and after it only the repetitions in the
roots. -/
theorem preparation_reported (declarations : List Declaration) (settings : Settings) :
    let b := (new (.ofDeclarations declarations) settings).blueprint
    let remarksOn := b.registry.remarksOn settings.contextTypeName
    (∀ className m, b.registry.Remarked settings.contextTypeName className m) ∧
    (∀ className, b.registry.remarksOnClass settings.contextTypeName className =
      if (b.registry.methods className).isEmpty then [.noMethods className]
      else (b.registry.methods className).flatMap (remarksOn className)) ∧
    (∀ requests i,
      let s := b.compiler.storeAfter requests
      (∀ m, b.ReportsMethod s i m) ∧
      b.Reports i ((b.prepareResolver i).run s).value.1 ((b.prepareResolver i).remarks s)) ∧
    ∀ steps, ((new (.ofDeclarations declarations) settings).run steps).Reports b.registry settings.contextTypeName := by
  intro b remarksOn
  refine ⟨b.registry.remarked settings.contextTypeName, ?_, fun requests i => ?_, fun steps => ?_⟩
  · exact Registry.remarksOnClass_ofDeclarations declarations settings.contextTypeName
  · have hs : b.compiler.Settled (b.compiler.storeAfter requests) := Compiler.settled_storeAfter b.compiler requests
    exact ⟨fun m => Blueprint.prepareMethod_reports hs i m, Blueprint.prepareResolver_reports rfl hs i⟩
  · have hreports := build_reports (settled_run (.ofDeclarations declarations) settings steps)
    rw [registry_run, settings_run] at hreports
    exact hreports

end Builder

end EntityGraph
