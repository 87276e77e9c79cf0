import EntityGraph.Proofs.Dispatch.Authorization
import EntityGraph.Proofs.Schema.Exposure
/-!
# What a body receives for what was supplied

Parameters are counted in three ways. Overrides count all that were declared; a body gets one argument for each that
is not the context; and clients are offered one for each of these whose type is known. The three agree: the arguments
that reach a body stand in the order of its parameters, each made by its parameter's effective type from what was
supplied under its parameter's name, and those that clients are offered are the known ones among them, in the same order
(`arguments_line_up`).
-/

namespace EntityGraph

/-! ## How an argument is made -/

namespace Registry

/-- A value filled into an instance of a class, null if there is none. -/
def filled (r : Registry) (className : String) (v : Value) : Argument :=
  match (r.fill (some v) (some className)).value with
  | some i => .model i
  | none => .null

/-- The argument that a parameter of the type `t` gets for a value. -/
def made (r : Registry) (t : TypeRef) (v : Value) : Argument :=
  match t.scalar?, r.entityFor? t.name with
  | some _, _ => .scalar v
  | none, some m =>
    if t.list then .list ((match v with | .list items => items | single => [single]).map (r.filled m.className))
    else r.filled m.className v
  | none, none => .null

/-- The argument of a parameter of the type `t`, from what was supplied for it. -/
def argumentOf (r : Registry) (t : TypeRef) : Option Value → Argument
  | none => .null
  | some .null => .null
  | some v => r.made t v

variable {r : Registry} {t : TypeRef} {v : Value}

theorem marshalModel_value (className : String) (v : Value) :
    (r.marshalModel className v).value = r.filled className v := by
  unfold marshalModel filled
  rfl

theorem marshalModels_value (className : String) (v : Value) : (r.marshalModels className v).value =
    .list ((match v with | .list items => items | single => [single]).map (r.filled className)) := by
  unfold marshalModels Logged.each
  rw [Logged.value_bind, Logged.value_pure]
  exact congrArg Argument.list (List.map_congr_left fun item _ => marshalModel_value className item)

theorem marshal_some (h : v.isNull = false) (form : ParameterForm) : r.marshal form (some v) = match form with
    | .scalar => pure (.scalar v)
    | .model className false => r.marshalModel className v
    | .model className true => r.marshalModels className v
    | .unknown => pure .null := by
  cases v with
  | null => cases h
  | _ => rfl

theorem argumentOf_some (h : v.isNull = false) : r.argumentOf t (some v) = r.made t v := by
  cases v with
  | null => cases h
  | _ => rfl

/-- **An argument is made as its parameter's type says.** -/
theorem marshal_formOf (r : Registry) (t : TypeRef) (supplied : Option Value) :
    (r.marshal (r.formOf t) supplied).value = r.argumentOf t supplied := by
  cases supplied with
  | none => rfl
  | some v =>
    cases hnull : v.isNull with
    | true =>
      cases v with
      | null => rfl
      | _ => cases hnull
    | false =>
      rw [marshal_some hnull, argumentOf_some hnull]
      unfold formOf made
      cases t.scalar? with
      | some _ => rfl
      | none =>
        cases r.entityFor? t.name with
        | none => rfl
        | some m =>
          cases t.list with
          | false => exact marshalModel_value m.className v
          | true => exact marshalModels_value m.className v

theorem marshalAll_formOf (r : Registry) (parameters : List (Parameter × TypeRef)) (supplied : Dict Value) :
    (r.marshalAll (parameters.map fun a => ⟨a.1.name, r.formOf a.2⟩) supplied).value =
      parameters.map fun a => r.argumentOf a.2 (supplied.get? a.1.name) := by
  unfold marshalAll Logged.each
  rw [List.map_map]
  exact List.map_congr_left fun a _ => marshal_formOf r a.2 (supplied.get? a.1.name)

end Registry

/-! ## What clients are offered -/

namespace Builder

variable {b : Builder} {e : ResolverInstance × Method} {f : RootField}

/-- Clients are offered the parameters of known types, under their names and in their order. -/
theorem offered_fieldOf? (hs : b.compiler.Settled b.store) (he : e ∈ b.exposures) (hf : b.fieldOf? e = some f) :
    List.Forall₂
      (fun a offered => offered.1 = a.1.name ∧ b.blueprint.typeIn? b.prepared.2 .input a.2 = some offered.2)
      ((e.2.taken b.settings.contextTypeName).filter fun a => b.registry.knows a.2) f.arguments := by
  obtain ⟨hi, hm, hexposed⟩ := mem_exposures.1 he
  have hknown := ((prepared_eq hs).2 e.1 hi e.2 hm).arguments hexposed
  rw [(Blueprint.of_fieldIn? hf).2.1]
  refine (forall₂_filterMap _ fun a ha => ?_).imp fun a offered h => ?_
  · rw [Option.isSome_map]
    exact hknown a ha
  · obtain ⟨t, ht, rfl⟩ := Option.map_eq_some_iff.1 h
    exact ⟨rfl, ht⟩

/-- **Arguments line up with parameters.** The field of an exposed method offers clients those of its parameters, the
context apart, whose effective type is known. When it is asked for and let through, the body receives one argument for
each parameter but the context, made by its effective type from what was supplied under its name. -/
theorem arguments_line_up (registry : Registry) (settings : Settings) (steps : List BuilderStep)
    {i : ResolverInstance} {m : Method} (he : (i, m) ∈ ((new registry settings).run steps).exposures) :
    let b := (new registry settings).run steps
    let taken := m.taken settings.contextTypeName
    ∃ f handler, b.fieldOf? (i, m) = some f ∧ m.handler = some handler ∧
      List.Forall₂ (fun a offered => offered.1 = a.1.name ∧
          b.blueprint.typeIn? b.build.value.2.store .input a.2 = some offered.2)
        (taken.filter fun a => registry.knows a.2) f.arguments ∧
      ∀ h invocation after, Guard.Pass invocation.request m.guards (invocation.response h) after → handler.Suits i →
        let arguments := taken.map fun a => registry.argumentOf a.2 (invocation.supplied.get? a.1.name)
        let answer := handler.body ⟨(f.plan.receive h.tally).1, arguments, invocation.request⟩ after
        f.plan.serve registry h invocation = (RootPlan.reply answer.1,
          ⟨h.write invocation answer.2, (f.plan.receive h.tally).2,
            h.calls ++ [⟨i.className, m.name, arguments, invocation.request.id⟩]⟩) := by
  intro b taken
  have hs : b.compiler.Settled b.store := settled_run registry settings steps
  have hregistry : b.registry = registry := registry_run registry settings steps
  have hsettings : b.settings = settings := settings_run registry settings steps
  obtain ⟨f, hf⟩ := (fields_prepared hs).1 (i, m) he
  have hof : f.IsOf i m := isOf_fieldOf? hf
  have hparameters : f.plan.parameters =
      (m.taken b.settings.contextTypeName).map fun a => ⟨a.1.name, b.registry.formOf a.2⟩ :=
    (Blueprint.of_fieldIn? hf).2.2
  have hoffered := offered_fieldOf? hs he hf
  rw [hsettings, hregistry] at hparameters hoffered
  refine ⟨f, f.plan.handler, hf, hof.handler, hoffered, fun h invocation after hpass hsuits => ?_⟩
  -- the plan of the field has the guards and the instance that the method has
  rw [← hof.guards] at hpass
  rw [← hof.resolver] at hsuits
  have harguments := Registry.marshalAll_formOf registry taken invocation.supplied
  rw [← hparameters] at harguments
  rw [RootPlan.serve_of_pass hpass hsuits, RootPlan.callFor, RootPlan.recordOf, harguments, hof.className, hof.method]

/-! ## A finder

Its second parameter is declared a single pet and overridden as a list, its last is of no known type. -/

def finderDeclarations : List Declaration := [
  .entity "Pet" none,
  .field "Pet" "id" (.primaryKey .float) none,
  .method "Finder" "find" .query none (some (.named "Pet")),
  .parameter "Finder" "find" "context" (.named "resContext"),
  .parameter "Finder" "find" "like" (.named "Pet"),
  .parameter "Finder" "find" "name" (.named "string"),
  .parameter "Finder" "find" "mood" (.named "Mood"),
  .parameterOverride "Finder" "find" 1 (.listOf "Pet"),
  .handler "Finder" "find" ⟨none, fun _ response => (.ok .null, response)⟩]

def findMethod : Method where
  name := "find"
  kind := some .query
  returns := some (.named "Pet")
  parameters := [⟨"context", .named "resContext"⟩, ⟨"like", .named "Pet"⟩, ⟨"name", .named "string"⟩,
    ⟨"mood", .named "Mood"⟩]
  overrides := [⟨1, .listOf "Pet"⟩]
  handler := some ⟨none, fun _ response => (.ok .null, response)⟩

def finder : ResolverInstance := ⟨0, "Finder", "Finder", "finder"⟩

/-- Three of the four parameters reach the body: the list as a list of pets, of which only declared fields are set, and
the one of no known type as null. -/
theorem finder_receives :
    let registry := Registry.ofDeclarations finderDeclarations
    let b := (new registry {}).run [.registerResolvers [⟨"Finder", "Finder", "finder"⟩]]
    let pets := Value.list [.object [("id", .number (.int 7)), ("legs", .number (.int 4))], .object [("id", .text "x")]]
    (finder, findMethod) ∈ b.exposures ∧ ∃ f, b.fieldOf? (finder, findMethod) = some f ∧
      (f.plan.serve registry ⟨{}, [], []⟩ ⟨none, .ofList [("mood", .text "good"), ("like", pets),
        ("name", .text "Tom")]⟩).2.calls =
      [⟨"Finder", "find", [.list [.model ⟨"Pet", [("id", .number (.int 7))]⟩, .model ⟨"Pet", [("id", .text "x")]⟩],
        .scalar (.text "Tom"), .null], none⟩] := by
  intro registry b pets
  have he : (finder, findMethod) ∈ b.exposures := mem_exposures.2 ⟨List.mem_cons_self, List.mem_cons_self, rfl⟩
  obtain ⟨f, handler, hf, hhandler, _, hserve⟩ := arguments_line_up registry {} _ he
  cases hhandler
  refine ⟨he, f, hf, ?_⟩
  rw [hserve _ _ {} (.nil {}) (fun _ h => nomatch h)]
  rfl

end Builder

end EntityGraph
