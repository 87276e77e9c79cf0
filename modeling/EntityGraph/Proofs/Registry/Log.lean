import EntityGraph.Proofs.KeyedLog
import EntityGraph.Registry.Declaration
/-!
# A registry and its log

Every declaration changes one model or one resolver method. So models and resolver classes are dictionaries that are
read from the log of all declarations (`models_ofDeclarations`, `resolvers_ofDeclarations`), and so are the methods of
a class. What a registry holds of a model or of a method is therefore made by the declarations that bear on it, in
their order, and by nothing else (`model?_ofDeclarations`, `eq_of_method?`).
-/

namespace EntityGraph

namespace Declaration

/-! ## What a declaration bears on -/

/-- The class whose model is declared. -/
def modelClass? : Declaration → Option String
  | .entity c _ => some c
  | .field c _ _ _ => some c
  | _ => none

/-- The class and the name of the resolver method that is declared. -/
def methodKey? : Declaration → Option (String × String)
  | .method c m _ _ _ => some (c, m)
  | .guard c m _ => some (c, m)
  | .parameterOverride c m _ _ => some (c, m)
  | .parameter c m _ _ => some (c, m)
  | .handler c m _ => some (c, m)
  | _ => none

def resolverClass? (d : Declaration) : Option String := d.methodKey?.map Prod.fst

def methodName? (d : Declaration) : Option String := d.methodKey?.map Prod.snd

/-- The declarations of the model of a class. -/
def ofModel (className : String) (log : List Declaration) : List Declaration :=
  log.filter (·.modelClass? == some className)

/-- The declarations of the methods of a class. -/
def ofResolver (className : String) (log : List Declaration) : List Declaration :=
  log.filter (·.resolverClass? == some className)

/-- The declarations of one method. -/
def ofMethod (className method : String) (log : List Declaration) : List Declaration :=
  log.filter (·.methodKey? == some (className, method))

/-! ## What it makes of that -/

end Declaration

def Model.declare (m : Model) : Declaration → Model
  | .entity _ name => m.declareEntity name
  | .field _ f kind wireName => m.declareField ⟨f, wireName.getD f, kind⟩
  | _ => m

def Method.declare (m : Method) : Declaration → Method
  | .method _ _ kind exposedAs returns => m.declareKind kind exposedAs returns
  | .guard _ _ g => m.addGuard g
  | .parameterOverride _ _ position type => m.addOverride ⟨position, type⟩
  | .parameter _ _ name type => m.addParameter ⟨name, type⟩
  | .handler _ _ h => m.bindHandler h
  | _ => m

def ResolverClass.declare (c : ResolverClass) (d : Declaration) : ResolverClass :=
  { c with methods := c.methods.enter Declaration.methodName? (fun name => { name }) Method.declare d }

namespace Registry

variable {r : Registry} {log : List Declaration} {className method : String}

theorem models_declare (r : Registry) (d : Declaration) :
    (r.declare d).models = r.models.enter Declaration.modelClass? Model.empty Model.declare d := by
  cases d <;> rfl

theorem resolvers_declare (r : Registry) (d : Declaration) :
    (r.declare d).resolvers =
      r.resolvers.enter Declaration.resolverClass? (fun c => ⟨c, .empty⟩) ResolverClass.declare d := by
  cases d <;> rfl

theorem ofDeclarations_concat (log : List Declaration) (d : Declaration) :
    ofDeclarations (log ++ [d]) = (ofDeclarations log).declare d := by
  unfold ofDeclarations declareAll
  rw [List.foldl_append]
  rfl

/-! ## Reading the log -/

theorem models_ofDeclarations (log : List Declaration) :
    (ofDeclarations log).models = Dict.collect Declaration.modelClass? Model.empty Model.declare log := by
  induction log using List.reverseRecOn with
  | nil => rfl
  | append_singleton log d ih => rw [ofDeclarations_concat, models_declare, ih, Dict.collect_concat]

theorem resolvers_ofDeclarations (log : List Declaration) : (ofDeclarations log).resolvers =
    Dict.collect Declaration.resolverClass? (fun c => ⟨c, .empty⟩) ResolverClass.declare log := by
  induction log using List.reverseRecOn with
  | nil => rfl
  | append_singleton log d ih => rw [ofDeclarations_concat, resolvers_declare, ih, Dict.collect_concat]

/-- **The model of a class is made by its own declarations.** -/
theorem model?_ofDeclarations (log : List Declaration) (className : String) :
    (ofDeclarations log).model? className =
      if className ∈ log.filterMap Declaration.modelClass? then
        some ((Declaration.ofModel className log).foldl Model.declare (Model.empty className))
      else none := by
  unfold model?
  rw [models_ofDeclarations, Dict.get?_collect]
  rfl

theorem eq_of_model? {m : Model} (h : (ofDeclarations log).model? className = some m) :
    m = (Declaration.ofModel className log).foldl Model.declare (Model.empty className) := by
  unfold model? at h
  rw [models_ofDeclarations] at h
  exact Dict.get?_collect_eq_some h

/-! ## Methods -/

theorem foldl_resolverDeclare (c : ResolverClass) (own : List Declaration) :
    own.foldl ResolverClass.declare c = ⟨c.className,
      own.foldl (Dict.enter Declaration.methodName? (fun name => { name }) Method.declare) c.methods⟩ := by
  induction own generalizing c with
  | nil => rfl
  | cons d own ih => rw [List.foldl_cons, List.foldl_cons, ih]; rfl

/-- The methods of a class are read from the declarations of its methods. -/
theorem eq_of_resolver? {c : ResolverClass} (h : (ofDeclarations log).resolver? className = some c) :
    c = ⟨className, Dict.collect Declaration.methodName? (fun name => { name }) Method.declare
      (Declaration.ofResolver className log)⟩ := by
  unfold resolver? at h
  rw [resolvers_ofDeclarations] at h
  rw [Dict.get?_collect_eq_some h, foldl_resolverDeclare]
  rfl

theorem filter_ofResolver (className method : String) (log : List Declaration) :
    (Declaration.ofResolver className log).filter (·.methodName? == some method) =
      Declaration.ofMethod className method log := by
  unfold Declaration.ofResolver Declaration.ofMethod
  rw [List.filter_filter]
  refine List.filter_congr fun d _ => ?_
  unfold Declaration.methodName? Declaration.resolverClass?
  cases d.methodKey? with
  | none => rfl
  | some key =>
    obtain ⟨c, m⟩ := key
    rw [Bool.eq_iff_iff]
    simp [and_comm]

/-- **A method is made by its own declarations.** -/
theorem eq_of_method? {m : Method} (h : (ofDeclarations log).method? className method = some m) :
    m = (Declaration.ofMethod className method log).foldl Method.declare { name := method } := by
  obtain ⟨c, hc, hm⟩ := Option.bind_eq_some_iff.1 h
  rw [eq_of_resolver? hc] at hm
  rw [Dict.get?_collect_eq_some hm, filter_ofResolver]

end Registry

end EntityGraph
