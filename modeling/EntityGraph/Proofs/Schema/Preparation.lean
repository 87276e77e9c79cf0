import EntityGraph.Proofs.Registry.Remarks
import EntityGraph.Proofs.Types.Omissions
import EntityGraph.Proofs.Types.Stability
import Mathlib.Data.List.Basic
/-!
# What preparing resolvers gives

Preparation looks each type up, or compiles it, at the moment when it is mentioned. A type once compiled stays, so the
result can be read off the store in the end, and off every later one, without regard to the order of events: each
exposed method gives the field that `fieldIn?` reads, and no other method gives any. What is remarked on the way does
not depend on the store at all.

`Building.Yields` says of a piece of work what it does to the store, what it notes and what holds of its result in
every store from then on, and `Yields.bind` puts two pieces together. Each function of the preparation has one lemma
below, which the next one uses; none is unfolded twice.
-/

namespace EntityGraph

/-- A note on a foreign key that was left out. -/
def Diagnostic.isOmission : Diagnostic → Bool
  | .foreignKeyOmitted _ _ _ => true
  | _ => false

theorem Diagnostic.isOmission_iff {d : Diagnostic} : d.isOmission = true ↔ d.IsOmission := by
  constructor
  · intro h
    cases d with
    | foreignKeyOmitted className field target => exact ⟨className, field, target, rfl⟩
    | _ => cases h
  · rintro ⟨_, _, _, rfl⟩
    rfl

/-! ## Work on a store -/

namespace Building

variable {α β : Type} {c : Compiler} {s : TypeStore} {noted noted' : List Diagnostic} {p : α → TypeStore → Prop}
  {q : β → TypeStore → Prop}

/-- What work notes, beside what the compiler omits. -/
def remarks (x : Building α) (s : TypeStore) : List Diagnostic := (x.run s).log.filter (!·.isOmission)

structure Yields (c : Compiler) (s : TypeStore) (x : Building α) (noted : List Diagnostic)
    (post : α → TypeStore → Prop) : Prop where
  /-- The work does to the store what some requests do. -/
  store : ∃ requests : List TypeRequest, (x.run s).value.2 = requests.foldl c.storeOf s
  remarks : x.remarks s = noted
  /-- The result meets `post` in every store that the one it leaves grows into. -/
  result : ∀ u, c.Settled u → (x.run s).value.2.Grows u → post (x.run s).value.1 u

theorem yields_pure {a : α} (h : ∀ u, c.Settled u → s.Grows u → p a u) : Yields c s (pure a) [] p :=
  ⟨⟨[], rfl⟩, rfl, h⟩

theorem yields_note_pure {d : Diagnostic} (hd : d.isOmission = false) {a : α}
    (h : ∀ u, c.Settled u → s.Grows u → p a u) : Yields c s (do note d; pure a) [d] p := by
  refine ⟨⟨[], rfl⟩, ?_, h⟩
  have hlog : remarks (do note d; pure a) s = [d].filter (!·.isOmission) := rfl
  rw [hlog, List.filter_singleton, hd]
  rfl

theorem Yields.settled_grows {x : Building α} (hx : Yields c s x noted p) (hs : c.Settled s) :
    c.Settled (x.run s).value.2 ∧ s.Grows (x.run s).value.2 := by
  obtain ⟨requests, hstore⟩ := hx.store
  rw [hstore]
  exact ⟨hs.foldl requests, hs.grows_foldl requests⟩

theorem Yields.at_end {x : Building α} (hx : Yields c s x noted p) (hs : c.Settled s) :
    p (x.run s).value.1 (x.run s).value.2 :=
  hx.result _ (hx.settled_grows hs).1 (.refl _)

theorem Yields.bind {x : Building α} {f : α → Building β} (hs : c.Settled s) (hx : Yields c s x noted p)
    (hf : ∀ a t, c.Settled t → s.Grows t → (∀ u, c.Settled u → t.Grows u → p a u) → Yields c t (f a) noted' q) :
    Yields c s (x >>= f) (noted ++ noted') q := by
  obtain ⟨hsettled, hgrows⟩ := hx.settled_grows hs
  have hrest := hf (x.run s).value.1 (x.run s).value.2 hsettled hgrows hx.result
  obtain ⟨requests, hstore⟩ := hx.store
  obtain ⟨more, hmore⟩ := hrest.store
  refine ⟨⟨requests ++ more, ?_⟩, ?_, hrest.result⟩
  · rw [List.foldl_append, ← hstore]
    exact hmore
  · rw [← hx.remarks, ← hrest.remarks]
    exact List.filter_append _ _

/-- Going on from work without doing more. -/
theorem Yields.map {x : Building α} {g : α → β} (hs : c.Settled s) (hx : Yields c s x noted p)
    (hg : ∀ a u, c.Settled u → s.Grows u → p a u → q (g a) u) : Yields c s (do let a ← x; pure (g a)) noted q := by
  have hwhole : Yields c s (do let a ← x; pure (g a)) (noted ++ []) q :=
    hx.bind hs fun a t _ ht ha => yields_pure fun u hu hgrows => hg a u hu (ht.trans hgrows) (ha u hu hgrows)
  rwa [List.append_nil] at hwhole

theorem omissions_request (c : Compiler) (s : TypeStore) (r : TypeRequest) :
    ∀ d ∈ ((c.request r).run s).log, d.IsOmission := by
  rw [Compiler.log_request]
  exact c.omissions_compile r.flavor r.className s

/-- The answer to a request is what is found from then on. -/
theorem yields_request (hs : c.Settled s) (r : TypeRequest) :
    Yields c s (c.request r) [] fun answer u =>
      answer = c.lookup? u r.className r.flavor ∧ answer.isSome = decide (c.registry.IsEntity r.className) := by
  have ht : c.Settled (c.storeOf s r) := hs.storeOf r
  have hanswer : ((c.request r).run s).value.1 = c.lookup? (c.storeOf s r) r.className r.flavor :=
    Compiler.request_value c hs.numbered r
  refine ⟨⟨[r], rfl⟩, ?_, fun u hu hg => ?_⟩
  · unfold remarks
    rw [List.filter_eq_nil_iff]
    intro d hd
    rw [Diagnostic.isOmission_iff.2 (omissions_request c s r d hd)]
    exact Bool.false_ne_true
  · rw [hanswer]
    -- the type of an entity is found in all later stores, and nothing of another class in any
    by_cases he : c.registry.IsEntity r.className
    · have hlink := Compiler.isSome_link?_storeOf c hs.numbered r
      rw [(c.isSome_key? r.className).2 he] at hlink
      obtain ⟨type, ha⟩ := ht.answers_of_link? hlink
      have hg' : (c.storeOf s r).Grows u := hg
      rw [ht.lookup?_eq_some_iff.2 ha, hu.lookup?_eq_some_iff.2 (ha.grows hg')]
      exact ⟨rfl, (decide_eq_true he).symm⟩
    · have hkey : c.key? r.className = none := by
        rw [← Option.not_isSome_iff_eq_none, c.isSome_key?]
        exact he
      have hnone : ∀ v, c.lookup? v r.className r.flavor = none := fun v => by
        unfold Compiler.lookup?
        rw [hkey]
        rfl
      rw [hnone, hnone]
      exact ⟨rfl, (decide_eq_false he).symm⟩

end Building

/-! ## Types as a store has them -/

/-- What a field has of the method and the instance that it exposes, whatever is compiled. -/
structure RootField.IsOf (f : RootField) (i : ResolverInstance) (m : Method) : Prop where
  kind : m.kind = some f.kind
  name : f.name = m.exposedName
  className : f.plan.className = i.className
  method : f.plan.method = m.name
  guards : f.plan.guards = m.guards
  handler : m.handler = some f.plan.handler
  resolver : f.plan.resolver = i

namespace Blueprint

/-- The entity of a name with its type of a flavor. -/
def entityTypeIn? (b : Blueprint) (s : TypeStore) (flavor : Flavor) (name : String) : Option (String × CompiledType) :=
  (b.registry.entityFor? name).bind fun m =>
    (b.compiler.lookup? s m.className flavor).map fun type => (m.className, type)

/-- A declared type as the schema has it: under a scalar's name or that of an entity's type. -/
def typeIn? (b : Blueprint) (s : TypeStore) (flavor : Flavor) (t : TypeRef) : Option TypeRef :=
  match t.scalar? with
  | some scalar => some (t.withName scalar.name)
  | none => (b.entityTypeIn? s flavor t.name).map fun e => t.withName e.2.name

/-- A parameter of the effective type `t`, once it is prepared. -/
def parameterIn (b : Blueprint) (s : TypeStore) (p : Parameter) (t : TypeRef) : PreparedParameter :=
  ⟨⟨p.name, b.registry.formOf t⟩, (b.typeIn? s .input t).map fun t => (p.name, t)⟩

/-- The field that an instance's method is exposed as, if it is. -/
def fieldIn? (b : Blueprint) (s : TypeStore) (i : ResolverInstance) (m : Method) : Option RootField :=
  match m.kind, m.returns.bind (b.typeIn? s .output), m.handler with
  | some kind, some returns, some handler => some {
      kind
      name := m.exposedName
      returns
      arguments := (m.taken b.contextTypeName).filterMap fun a => (b.typeIn? s .input a.2).map fun t => (a.1.name, t)
      plan := {
        className := i.className
        method := m.name
        parameters := (m.taken b.contextTypeName).map fun a => ⟨a.1.name, b.registry.formOf a.2⟩
        guards := m.guards
        handler
        resolver := i } }
  | _, _, _ => none

/-- A store that has what a method of an instance needs in order to be exposed. -/
structure Serves (b : Blueprint) (s : TypeStore) (i : ResolverInstance) (m : Method) : Prop where
  field : (b.fieldIn? s i m).isSome = b.registry.exposes m
  arguments : b.registry.exposes m = true → ∀ a ∈ m.taken b.contextTypeName,
    (b.typeIn? s .input a.2).isSome = b.registry.knows a.2

open Building

variable {b : Blueprint} {s u : TypeStore} {flavor : Flavor} {name : String} {t : TypeRef} {m : Model}

theorem entityTypeIn?_eq_none (h : b.registry.findModel? name = none) : b.entityTypeIn? u flavor name = none := by
  unfold entityTypeIn?
  rw [Registry.entityFor?_eq_none h]
  rfl

theorem entityTypeIn?_of_findModel? (h : b.registry.findModel? name = some m) {answer : Option CompiledType}
    (ha : answer = b.compiler.lookup? u m.className flavor)
    (he : answer.isSome = decide (b.registry.IsEntity m.className)) :
    b.entityTypeIn? u flavor name = answer.map fun type => (m.className, type) := by
  unfold entityTypeIn?
  rw [Registry.entityFor?_of_findModel? h]
  by_cases hm : b.registry.IsEntity m.className
  · rw [if_pos hm, Option.bind_some, ha]
  · rw [decide_eq_false hm, Option.isSome_eq_false_iff, Option.isNone_iff_eq_none] at he
    rw [if_neg hm, he]
    rfl

theorem isSome_entityFor? (h : b.registry.findModel? name = some m) :
    (b.registry.entityFor? name).isSome = decide (b.registry.IsEntity m.className) := by
  rw [Registry.entityFor?_of_findModel? h]
  by_cases hm : b.registry.IsEntity m.className <;> simp [hm]

/-- An entity's type is found together with the model that arguments are made for. -/
theorem className_of_entityTypeIn? {e : String × CompiledType} (h : b.entityTypeIn? u flavor name = some e) :
    ∃ m, b.registry.entityFor? name = some m ∧ e.1 = m.className := by
  obtain ⟨m, hm, he⟩ := Option.bind_eq_some_iff.1 h
  obtain ⟨type, _, rfl⟩ := Option.map_eq_some_iff.1 he
  exact ⟨m, hm, rfl⟩

theorem of_fieldIn? {i : ResolverInstance} {m : Method} {f : RootField} (h : b.fieldIn? u i m = some f) :
    f.IsOf i m ∧
      f.arguments = (m.taken b.contextTypeName).filterMap (fun a =>
        (b.typeIn? u .input a.2).map fun t => (a.1.name, t)) ∧
      f.plan.parameters = (m.taken b.contextTypeName).map fun a => ⟨a.1.name, b.registry.formOf a.2⟩ := by
  unfold fieldIn? at h
  split at h
  · rename_i hkind _ hhandler
    cases h
    exact ⟨⟨hkind, rfl, rfl, rfl, rfl, hhandler, rfl⟩, rfl, rfl⟩
  · cases h

/-! ## Types and parameters -/

theorem yields_returnType? (hs : b.compiler.Settled s) (t : TypeRef) :
    Yields b.compiler s (b.returnType? t) [] fun answer u =>
      answer = b.typeIn? u .output t ∧ answer.isSome = b.registry.knows t := by
  unfold returnType? typeIn? Registry.knows
  cases hscalar : t.scalar? with
  | some scalar => exact yields_pure fun u _ _ => ⟨rfl, rfl⟩
  | none =>
    cases hm : b.registry.findModel? t.name with
    | none =>
      refine yields_pure fun u _ _ => ⟨?_, ?_⟩
      · simp only [entityTypeIn?_eq_none hm, Option.map_none]
      · rw [Registry.entityFor?_eq_none hm]
        rfl
    | some m =>
      refine (yields_request hs ⟨.output, m.className⟩).map hs fun compiled u _ _ hcompiled => ?_
      obtain ⟨hlookup, hsome⟩ := hcompiled
      have htype := entityTypeIn?_of_findModel? hm hlookup hsome
      refine ⟨?_, ?_⟩
      · simp only [htype, Option.map_map]
        rfl
      · rw [Option.isSome_map, hsome, isSome_entityFor? hm]
        rfl

theorem yields_inputType? (hs : b.compiler.Settled s) (name : String) :
    Yields b.compiler s (b.inputType? name) [] fun answer u =>
      answer = b.entityTypeIn? u .input name ∧ answer.isSome = (b.registry.entityFor? name).isSome := by
  unfold inputType?
  cases hm : b.registry.findModel? name with
  | none =>
    refine yields_pure fun u _ _ => ⟨(entityTypeIn?_eq_none hm).symm, ?_⟩
    rw [Registry.entityFor?_eq_none hm]
    rfl
  | some m =>
    refine (yields_request hs ⟨.input, m.className⟩).map hs fun compiled u _ _ hcompiled => ?_
    obtain ⟨hlookup, hsome⟩ := hcompiled
    rw [entityTypeIn?_of_findModel? hm hlookup hsome, Option.isSome_map, hsome, isSome_entityFor? hm]
    exact ⟨rfl, rfl⟩

theorem yields_prepareParameter (hs : b.compiler.Settled s) (className : String) (m : Method) (p : Parameter)
    (t : TypeRef) : Yields b.compiler s (b.prepareParameter className m p t)
      (b.registry.unknownAmong className m [(p, t)]) fun prepared u =>
        prepared = b.parameterIn u p t ∧ prepared.argument.isSome = b.registry.knows t := by
  unfold prepareParameter parameterIn typeIn? Registry.unknownAmong Registry.knows Registry.formOf
  rw [List.filter_singleton]
  dsimp only
  cases hscalar : t.scalar? with
  | some scalar => exact yields_pure fun u _ _ => ⟨rfl, rfl⟩
  | none =>
    refine (yields_inputType? hs t.name).bind hs fun answer v hv _ hanswer => ?_
    have hsome : answer.isSome = (b.registry.entityFor? t.name).isSome := (hanswer v hv (.refl v)).2
    rw [← hsome]
    cases answer with
    | none =>
      refine yields_note_pure rfl fun u hu hg => ?_
      have htype := (hanswer u hu hg).1
      have hnone : b.registry.entityFor? t.name = none :=
        Option.isNone_iff_eq_none.1 (Option.isSome_eq_false_iff.1 hsome.symm)
      simp only [← htype, hnone, Option.map_none]
      exact ⟨trivial, rfl⟩
    | some e =>
      refine yields_pure fun u hu hg => ?_
      have htype := (hanswer u hu hg).1
      obtain ⟨m, hm, hclass⟩ := className_of_entityTypeIn? htype.symm
      simp only [← htype, hm, hclass, Option.map_some]
      exact ⟨trivial, rfl⟩

theorem yields_prepareParameters (className : String) (m : Method) :
    ∀ (ps : List Parameter) (position : Nat) {s : TypeStore}, b.compiler.Settled s →
      m.parameters.drop position = ps →
        let taken := ((ps.zipIdx position).filter fun p => !b.isContext p.1).map
          fun p => (p.1, m.effectiveType p.2 p.1)
        Yields b.compiler s (b.prepareParameters className m position ps) (b.registry.unknownAmong className m taken)
          fun prepared u => prepared = taken.map (fun a => b.parameterIn u a.1 a.2) ∧
            ∀ a ∈ taken, (b.typeIn? u .input a.2).isSome = b.registry.knows a.2
  | [], position, s, _, _ => yields_pure fun u _ _ => ⟨rfl, fun a ha => absurd ha List.not_mem_nil⟩
  | p :: ps, position, s, hs, hps => by
    have hp : m.parameters[position]? = some p := by
      have h : (m.parameters.drop position)[0]? = some p := by rw [hps]; rfl
      rwa [List.getElem?_drop, Nat.add_zero] at h
    have hrest : m.parameters.drop (position + 1) = ps := by rw [← List.tail_drop, hps, List.tail_cons]
    unfold prepareParameters
    rw [Method.parameterType?_getD hp]
    -- the context takes a position, by which overrides count, and no place among the arguments
    by_cases hc : b.isContext p = true
    · rw [if_pos hc]
      simp only [List.zipIdx_cons, List.filter_cons, hc, Bool.not_true, Bool.false_eq_true, ↓reduceIte]
      exact yields_prepareParameters className m ps (position + 1) hs hrest
    · rw [if_neg hc]
      simp only [List.zipIdx_cons, List.filter_cons, hc, Bool.not_false, ↓reduceIte, List.map_cons]
      rw [Registry.unknownAmong_cons]
      refine (yields_prepareParameter hs className m p _).bind hs fun prepared v hv _ hprepared => ?_
      refine (yields_prepareParameters className m ps (position + 1) hv hrest).map hv fun rest u hu hg hrest => ?_
      obtain ⟨hfirst, hknown⟩ := hprepared u hu hg
      obtain ⟨htail, hknowns⟩ := hrest
      refine ⟨by rw [hfirst, htail], List.forall_mem_cons.2 ⟨?_, hknowns⟩⟩
      rw [← hknown, hfirst]
      exact Option.isSome_map.symm

theorem yields_parameters (hs : b.compiler.Settled s) (className : String) (m : Method) :
    Yields b.compiler s (b.prepareParameters className m 0 m.parameters)
      (b.registry.unknownParameters b.contextTypeName className m) fun prepared u =>
        prepared = (m.taken b.contextTypeName).map (fun a => b.parameterIn u a.1 a.2) ∧
          ∀ a ∈ m.taken b.contextTypeName, (b.typeIn? u .input a.2).isSome = b.registry.knows a.2 :=
  yields_prepareParameters className m m.parameters 0 hs rfl

/-! ## Methods and resolvers -/

theorem skipped_serves {i : ResolverInstance} {m : Method} (hf : b.fieldIn? u i m = none)
    (he : b.registry.exposes m = false) : none = b.fieldIn? u i m ∧ b.Serves u i m := by
  refine ⟨hf.symm, by rw [hf, he]; rfl, fun h => ?_⟩
  rw [he] at h
  cases h

/-- **A method gives the field that is read from then on**, and the remarks on it follow from its declaration. -/
theorem yields_prepareMethod (hs : b.compiler.Settled s) (i : ResolverInstance) (m : Method) :
    Yields b.compiler s (b.prepareMethod i m) (b.registry.remarksOn b.contextTypeName i.className m)
      fun answer u => answer = b.fieldIn? u i m ∧ b.Serves u i m := by
  unfold prepareMethod Registry.remarksOn
  -- a method is left at the first of kind, return type, type and handler that it lacks
  cases hkind : m.kind with
  | none =>
    exact yields_pure fun u _ _ => skipped_serves (by simp [fieldIn?, hkind]) (by simp [Registry.exposes, hkind])
  | some kind =>
    cases hreturns : m.returns with
    | none =>
      exact yields_note_pure rfl fun u _ _ =>
        skipped_serves (by simp [fieldIn?, hreturns]) (by simp [Registry.exposes, hreturns])
    | some returns =>
      refine (yields_returnType? hs returns).bind hs fun answer v hv _ hanswer => ?_
      have hknown : answer.isSome = b.registry.knows returns := (hanswer v hv (.refl v)).2
      rw [← hknown]
      cases answer with
      | none =>
        refine yields_note_pure rfl fun u hu hg => ?_
        have htype := (hanswer u hu hg).1
        exact skipped_serves (by simp [fieldIn?, hreturns, ← htype]) (by simp [Registry.exposes, hreturns, ← hknown])
      | some type =>
        cases hhandler : m.handler with
        | none =>
          exact yields_note_pure rfl fun u _ _ =>
            skipped_serves (by simp [fieldIn?, hhandler]) (by simp [Registry.exposes, hhandler])
        | some handler =>
          refine (yields_parameters hv i.className m).map hv fun parameters u hu hg hparameters => ?_
          have htype := (hanswer u hu hg).1
          obtain ⟨hprepared, harguments⟩ := hparameters
          have hexposes : b.registry.exposes m = true := by simp [Registry.exposes, hkind, hreturns, hhandler, ← hknown]
          have hfield : b.fieldIn? u i m = some ⟨kind, m.exposedName, type, parameters.filterMap (·.argument),
              i.className, m.name, parameters.map (·.plan), m.guards, handler, i⟩ := by
            simp only [fieldIn?, hkind, hreturns, hhandler, Option.bind_some, ← htype, hprepared, List.filterMap_map,
              List.map_map]
            rfl
          exact ⟨hfield.symm, by rw [hfield, hexposes]; rfl, fun _ => harguments⟩

theorem yields_prepareMethods (i : ResolverInstance) : ∀ (ms : List Method) {s : TypeStore}, b.compiler.Settled s →
    Yields b.compiler s (b.prepareMethods i ms) (ms.flatMap (b.registry.remarksOn b.contextTypeName i.className))
      fun fields u => fields = ms.filterMap (b.fieldIn? u i) ∧ ∀ m ∈ ms, b.Serves u i m
  | [], s, _ => yields_pure fun u _ _ => ⟨rfl, fun m hm => absurd hm List.not_mem_nil⟩
  | m :: ms, s, hs => by
    unfold prepareMethods
    rw [List.flatMap_cons]
    refine (yields_prepareMethod hs i m).bind hs fun answer v hv _ hanswer => ?_
    refine (yields_prepareMethods i ms hv).map hv fun rest u hu hg hrest => ?_
    obtain ⟨hfirst, hserves⟩ := hanswer u hu hg
    obtain ⟨htail, hserve⟩ := hrest
    refine ⟨?_, List.forall_mem_cons.2 ⟨hserves, hserve⟩⟩
    rw [htail, hfirst, List.filterMap_cons]
    cases b.fieldIn? u i m <;> rfl

theorem yields_prepareResolver (hs : b.compiler.Settled s) (i : ResolverInstance) :
    Yields b.compiler s (b.prepareResolver i) (b.registry.remarksOnClass b.contextTypeName i.className)
      fun fields u => fields = (b.registry.methods i.className).filterMap (b.fieldIn? u i) ∧
        ∀ m ∈ b.registry.methods i.className, b.Serves u i m := by
  unfold prepareResolver Registry.remarksOnClass Registry.methods
  cases b.registry.resolver? i.className with
  | none => exact yields_note_pure rfl fun u _ _ => ⟨rfl, fun m hm => absurd hm List.not_mem_nil⟩
  | some c => exact yields_prepareMethods i c.methods.values hs

/-- **All resolvers give their fields and their remarks in turn.** -/
theorem yields_prepareResolvers : ∀ (is : List ResolverInstance) {s : TypeStore}, b.compiler.Settled s →
    Yields b.compiler s (b.prepareResolvers is)
      (is.flatMap fun i => b.registry.remarksOnClass b.contextTypeName i.className) fun prepared u =>
        prepared = is.map (fun i => (b.registry.methods i.className).filterMap (b.fieldIn? u i)) ∧
          ∀ i ∈ is, ∀ m ∈ b.registry.methods i.className, b.Serves u i m
  | [], s, _ => yields_pure fun u _ _ => ⟨rfl, fun i hi => absurd hi List.not_mem_nil⟩
  | i :: is, s, hs => by
    unfold prepareResolvers
    rw [List.flatMap_cons]
    refine (yields_prepareResolver hs i).bind hs fun fields v hv _ hfields => ?_
    refine (yields_prepareResolvers is hv).map hv fun rest u hu hg hrest => ?_
    obtain ⟨hfirst, hserves⟩ := hfields u hu hg
    obtain ⟨htail, hserve⟩ := hrest
    exact ⟨by rw [hfirst, htail, List.map_cons], List.forall_mem_cons.2 ⟨hserves, hserve⟩⟩

end Blueprint

end EntityGraph
