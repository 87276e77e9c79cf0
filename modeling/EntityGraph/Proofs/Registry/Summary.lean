import EntityGraph.Proofs.Registry.Exposure
import EntityGraph.Proofs.Registry.Fields
import EntityGraph.Proofs.Registry.Log
/-!
# What a registry sums up

Seven kinds of declarations may come in any order, and four policies say what becomes of them: an entity's name, the
kind of a method and its handler are overwritten, a field is overwritten where it stands, parameters and overrides are
added at the end, guards in front. A `Summary` says what a registry holds after a whole log, in terms of the log alone;
every log has it (`summary_ofDeclarations`). A single declaration leaves all else as it was (`confined_declare`).
-/

namespace EntityGraph

namespace Declaration

/-! ## What a declaration says -/

/-- The name that a class is declared an entity by: that of the class, if no other is given. -/
def entityName? : Declaration → Option String
  | .entity c name => some (name.getD c)
  | _ => none

/-- The field that is declared, called outside like itself if no other name is given. -/
def field? : Declaration → Option Field
  | .field _ f kind wireName => some ⟨f, wireName.getD f, kind⟩
  | _ => none

structure Signature where
  kind : RootKind
  exposedAs : Option String
  returns : Option TypeRef

def signature? : Declaration → Option Signature
  | .method _ _ kind exposedAs returns => some ⟨kind, exposedAs, returns⟩
  | _ => none

def parameter? : Declaration → Option Parameter
  | .parameter _ _ name type => some ⟨name, type⟩
  | _ => none

def override? : Declaration → Option ParameterOverride
  | .parameterOverride _ _ position type => some ⟨position, type⟩
  | _ => none

def guard? : Declaration → Option Guard
  | .guard _ _ g => some g
  | _ => none

def handler? : Declaration → Option Handler
  | .handler _ _ h => some h
  | _ => none

end Declaration

/-! ## Models -/

namespace Model

variable {className : String}

/-- What a model holds after the declarations of its class. -/
structure Sums (m : Model) (className : String) (own : List Declaration) : Prop where
  className : m.className = className
  /-- The entity is that of the last declaration of one. -/
  entity : m.entity = (own.filterMap Declaration.entityName?).getLast?
  /-- Fields stand where they were first declared. -/
  names : m.fields.map (·.name) = ((own.filterMap Declaration.field?).map (·.name)).eraseDups
  nodup : (m.fields.map (·.name)).Nodup
  /-- A field is what its last declaration says. -/
  field? : ∀ name, m.field? name = ((own.filterMap Declaration.field?).filter (·.name == name)).getLast?

/-- Fields by name. -/
def entries (fs : List Field) : Entries Field := fs.map fun f => (f.name, f)

theorem get?_entries : ∀ (fs : List Field) (name : String), (entries fs).get? name = fs.find? (·.name == name)
  | [], _ => rfl
  | f :: fs, name => by
    change (if f.name = name then some f else (entries fs).get? name) = _
    rw [get?_entries fs name, List.find?_cons]
    by_cases h : f.name = name
    · rw [if_pos h, beq_iff_eq.2 h]
    · rw [if_neg h, beq_eq_false_iff_ne.2 h]

theorem entries_putField : ∀ (fs : List Field) (f : Field),
    entries (putField fs f) = (entries fs).insert f.name f
  | [], _ => rfl
  | g :: fs, f => by
    have ih := entries_putField fs f
    unfold putField
    by_cases h : g.name = f.name
    · simp [entries, Entries.insert, h]
    · simp only [entries] at ih
      simp [entries, Entries.insert, h, ih]

theorem entries_putFields (fs : List Field) : entries (fs.foldl putField []) = Entries.ofList (entries fs) := by
  unfold Entries.ofList
  induction fs using List.reverseRecOn with
  | nil => rfl
  | append_singleton fs f ih =>
    have hlast : entries (fs ++ [f]) = entries fs ++ [(f.name, f)] := List.map_append
    rw [List.foldl_append, List.foldl_cons, List.foldl_nil, entries_putField, ih, hlast, Entries.insertAll_concat]

theorem foldl_declare (own : List Declaration) (h : ∀ d ∈ own, d.modelClass? = some className) :
    own.foldl declare (empty className) = ⟨className, (own.filterMap Declaration.entityName?).getLast?,
      (own.filterMap Declaration.field?).foldl putField []⟩ := by
  induction own using List.reverseRecOn with
  | nil => rfl
  | append_singleton own d ih =>
    have hown : ∀ d ∈ own, d.modelClass? = some className := fun d hd => h d (List.mem_append_left _ hd)
    have hd : d.modelClass? = some className := h d (List.mem_append_right _ (List.mem_singleton_self d))
    rw [List.foldl_append, ih hown, List.filterMap_append, List.filterMap_append]
    cases d with
    | entity c name =>
      cases hd
      simp [declare, declareEntity, Declaration.entityName?, Declaration.field?, List.filterMap_cons]
    | field c f kind wireName =>
      simp [declare, declareField, Declaration.entityName?, Declaration.field?, List.filterMap_cons]
    | _ => cases hd

/-- **A model sums up the declarations of its class.** -/
theorem sums_foldl (own : List Declaration) (h : ∀ d ∈ own, d.modelClass? = some className) :
    (own.foldl declare (empty className)).Sums className own := by
  rw [foldl_declare own h]
  have hentries := entries_putFields (own.filterMap Declaration.field?)
  have hnames : ((own.filterMap Declaration.field?).foldl putField []).map (·.name) =
      ((own.filterMap Declaration.field?).map (·.name)).eraseDups := by
    have hkeys := congrArg Entries.keys hentries
    rw [Entries.keys_ofList] at hkeys
    simpa [entries, Entries.keys, Function.comp_def] using hkeys
  refine ⟨rfl, rfl, hnames, by rw [hnames]; exact nodup_eraseDups _, fun name => ?_⟩
  have hget : (entries ((own.filterMap Declaration.field?).foldl putField [])).get? name = _ :=
    congrArg (Entries.get? · name) hentries
  rw [get?_entries] at hget
  refine (hget.trans (Dict.get?_ofList _ name)).trans ?_
  rw [entries, List.filter_map, List.getLast?_map, Option.map_map]
  exact Option.map_id'

end Model

/-! ## Methods -/

namespace Method

/-- What a method holds after the declarations of it. -/
structure Sums (m : Method) (name : String) (own : List Declaration) : Prop where
  name : m.name = name
  /-- Kind, name and return type are those of the last declaration of the method itself. -/
  kind : m.kind = (own.filterMap Declaration.signature?).getLast?.map (·.kind)
  exposedAs : m.exposedAs = (own.filterMap Declaration.signature?).getLast?.bind (·.exposedAs)
  returns : m.returns = (own.filterMap Declaration.signature?).getLast?.bind (·.returns)
  /-- Parameters are in order of declaration, guards in the reverse order. -/
  parameters : m.parameters = own.filterMap Declaration.parameter?
  guards : m.guards = (own.filterMap Declaration.guard?).reverse
  /-- Of the overrides for a position the last counts, and the declared type only if there is none. -/
  parameterType? : ∀ position, m.parameterType? position =
    ((((own.filterMap Declaration.override?).filter (·.position == position)).getLast?).map (·.type)).or
      ((own.filterMap Declaration.parameter?)[position]?.map (·.type))
  handler : m.handler = (own.filterMap Declaration.handler?).getLast?

theorem parameterType?_eq (m : Method) (position : Nat) : m.parameterType? position =
    (((m.overrides.filter (·.position == position)).getLast?).map (·.type)).or
      (m.parameters[position]?.map (·.type)) := by
  unfold parameterType?
  rw [find?_reverse_overrides]
  cases (m.overrides.filter (·.position == position)).getLast? <;> rfl

theorem foldl_declare (name : String) (own : List Declaration) : own.foldl declare { name } =
    { name
      kind := (own.filterMap Declaration.signature?).getLast?.map (·.kind)
      exposedAs := (own.filterMap Declaration.signature?).getLast?.bind (·.exposedAs)
      returns := (own.filterMap Declaration.signature?).getLast?.bind (·.returns)
      parameters := own.filterMap Declaration.parameter?
      guards := (own.filterMap Declaration.guard?).reverse
      overrides := own.filterMap Declaration.override?
      handler := (own.filterMap Declaration.handler?).getLast? } := by
  induction own using List.reverseRecOn with
  | nil => rfl
  | append_singleton own d ih =>
    rw [List.foldl_append, ih]
    simp only [List.filterMap_append]
    cases d <;>
      simp [declare, declareKind, addGuard, addOverride, addParameter, bindHandler, Declaration.signature?,
        Declaration.parameter?, Declaration.guard?, Declaration.override?, Declaration.handler?]

/-- **A method sums up its declarations.** -/
theorem sums_foldl (name : String) (own : List Declaration) : (own.foldl declare { name }).Sums name own := by
  rw [foldl_declare]
  exact ⟨rfl, rfl, rfl, rfl, rfl, rfl, fun position => parameterType?_eq _ position, rfl⟩

end Method

/-! ## Registries -/

namespace Registry

variable {r : Registry} {d : Declaration} {log : List Declaration} {className name : String}

/-- What a registry holds after a log of declarations. -/
structure Summary (log : List Declaration) (r : Registry) : Prop where
  /-- Models and resolver classes appear once each, as keys of a dictionary do, in the order in which they were first
  mentioned. -/
  models : r.models.keys = (log.filterMap Declaration.modelClass?).eraseDups
  resolvers : r.resolvers.keys = (log.filterMap Declaration.resolverClass?).eraseDups
  model : ∀ c m, r.model? c = some m → m.Sums c (Declaration.ofModel c log)
  /-- So do the methods of a class, whatever was declared of them first. -/
  methods : ∀ c k, r.resolver? c = some k → k.className = c ∧
    k.methods.keys = ((Declaration.ofResolver c log).filterMap Declaration.methodName?).eraseDups
  method : ∀ c name m, r.method? c name = some m → m.Sums name (Declaration.ofMethod c name log)

theorem summary_log (log : List Declaration) : Summary log (ofDeclarations log) := by
  have hmodels : (ofDeclarations log).models.keys = (log.filterMap Declaration.modelClass?).eraseDups := by
    rw [models_ofDeclarations, Dict.keys_collect]
  have hresolvers : (ofDeclarations log).resolvers.keys = (log.filterMap Declaration.resolverClass?).eraseDups := by
    rw [resolvers_ofDeclarations, Dict.keys_collect]
  refine ⟨hmodels, hresolvers, fun c m hm => ?_, fun c k hk => ?_, fun c name m hm => ?_⟩
  · rw [eq_of_model? hm]
    refine Model.sums_foldl _ fun d hd => ?_
    exact beq_iff_eq.1 (List.mem_filter.1 hd).2
  · rw [eq_of_resolver? hk]
    dsimp only
    rw [Dict.keys_collect]
    exact ⟨rfl, rfl⟩
  · rw [eq_of_method? hm]
    exact Method.sums_foldl name _

/-! ## One declaration -/

def field? (r : Registry) (className name : String) : Option Field := (r.model? className).bind (·.field? name)

/-- From `r` to `r'` nothing has changed but what a declaration bears on. -/
structure Confined (d : Declaration) (r r' : Registry) : Prop where
  model? : ∀ c, d.modelClass? ≠ some c → r'.model? c = r.model? c
  entityName? : ∀ c, d.entityName? = none → r'.entityName? c = r.entityName? c
  field? : ∀ c name, (d.modelClass? = some c → d.field?.map (·.name) ≠ some name) → r'.field? c name = r.field? c name
  resolver? : ∀ c, d.resolverClass? ≠ some c → r'.resolver? c = r.resolver? c
  method? : ∀ c name, d.methodKey? ≠ some (c, name) → r'.method? c name = r.method? c name

end Registry

namespace Dict

variable {α δ : Type} {key? : δ → Option String} {fresh : String → α} {step : α → δ → α}

theorem get?_enter_of_ne {d : Dict α} {x : δ} {key : String} (h : key? x ≠ some key) :
    (d.enter key? fresh step x).get? key = d.get? key := by
  unfold enter
  cases hx : key? x with
  | none => rfl
  | some key' => exact get?_insert_of_ne d _ fun he => h (by rw [hx, he])

theorem get?_enter_self {d : Dict α} {x : δ} {key : String} (h : key? x = some key) :
    (d.enter key? fresh step x).get? key = some (step ((d.get? key).getD (fresh key)) x) := by
  unfold enter
  rw [h]
  exact get?_insert_self d _ _

end Dict

namespace Model

theorem entity_declare (m : Model) {d : Declaration} (h : d.entityName? = none) : (m.declare d).entity = m.entity := by
  cases d with
  | entity c name => cases h
  | _ => rfl

theorem field?_declare (m : Model) {d : Declaration} {name : String} (h : d.field?.map (·.name) ≠ some name) :
    (m.declare d).field? name = m.field? name := by
  cases d with
  | field c f kind wireName =>
    have hne : f ≠ name := fun he => h (congrArg some he)
    change (putField m.fields _).find? _ = m.fields.find? _
    rw [← get?_entries, ← get?_entries, entries_putField, Entries.get?_insert_of_ne _ _ hne]
  | _ => rfl

end Model

namespace Registry

variable {r : Registry} {d : Declaration} {log : List Declaration} {className name : String}

theorem model?_declare_of_ne (h : d.modelClass? ≠ some className) :
    (r.declare d).model? className = r.model? className := by
  unfold model?
  rw [models_declare, Dict.get?_enter_of_ne h]

/-- A declared model is the model that was there, or an empty one, with this declared of it. -/
theorem model?_declare_self (h : d.modelClass? = some className) :
    (r.declare d).model? className = some (((r.model? className).getD (Model.empty className)).declare d) := by
  unfold model?
  rw [models_declare, Dict.get?_enter_self h]

/-- What a declaration leaves alone in a model, it leaves alone in the registry. -/
theorem bind_model?_declare {α : Type} {part : Model → Option α} (hempty : part (Model.empty className) = none)
    (h : d.modelClass? = some className → ∀ m : Model, part (m.declare d) = part m) :
    ((r.declare d).model? className).bind part = (r.model? className).bind part := by
  by_cases hd : d.modelClass? = some className
  · rw [model?_declare_self hd, Option.bind_some, h hd]
    cases r.model? className with
    | none => exact hempty
    | some m => rfl
  · rw [model?_declare_of_ne hd]

theorem resolver?_declare_of_ne (h : d.resolverClass? ≠ some className) :
    (r.declare d).resolver? className = r.resolver? className := by
  unfold resolver?
  rw [resolvers_declare, Dict.get?_enter_of_ne h]

theorem method?_declare_of_ne (h : d.methodKey? ≠ some (className, name)) :
    (r.declare d).method? className name = r.method? className name := by
  unfold method?
  by_cases hd : d.resolverClass? = some className
  · -- another method of the class is declared
    have hname : d.methodName? ≠ some name := by
      obtain ⟨⟨c, m⟩, hkey, rfl⟩ := Option.map_eq_some_iff.1 hd
      unfold Declaration.methodName?
      rw [hkey] at h ⊢
      exact fun he => h (by rw [← Option.some.inj he])
    have hself : (r.declare d).resolver? className =
        some (((r.resolver? className).getD ⟨className, .empty⟩).declare d) := by
      unfold resolver?
      rw [resolvers_declare, Dict.get?_enter_self hd]
    rw [hself, Option.bind_some]
    refine (Dict.get?_enter_of_ne hname).trans ?_
    cases r.resolver? className <;> rfl
  · rw [resolver?_declare_of_ne hd]

theorem confined_declare (r : Registry) (d : Declaration) : Confined d r (r.declare d) where
  model? _ := model?_declare_of_ne
  entityName? _ h := bind_model?_declare rfl fun _ m => m.entity_declare h
  field? _ _ h := bind_model?_declare rfl fun hd m => m.field?_declare (h hd)
  resolver? _ := resolver?_declare_of_ne
  method? _ _ := method?_declare_of_ne

/-- **A registry is the exact summary of its log**, and one more declaration changes only what it bears on. -/
theorem summary_ofDeclarations (log : List Declaration) : Summary log (ofDeclarations log) ∧
    ∀ d, Confined d (ofDeclarations log) (ofDeclarations (log ++ [d])) := by
  refine ⟨summary_log log, fun d => ?_⟩
  rw [ofDeclarations_concat]
  exact confined_declare _ d

example : ((ofDeclarations [
      .field "Pet" "id" (.column .float) none,
      .field "Pet" "name" (.column .string) none,
      .field "Pet" "id" (.primaryKey .float) (some "key")]).model? "Pet").map (·.fields) =
    some [⟨"id", "key", .primaryKey .float⟩, ⟨"name", "name", .column .string⟩] := by decide

end Registry

end EntityGraph
