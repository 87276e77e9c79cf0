import EntityGraph.Proofs.Registry.Summary
import EntityGraph.Registry.Chain
import Mathlib.Data.List.Basic
/-!
# Chains are declarations

A chain says nothing that declarations could not say: link by link it stands for the same log (`Chain.declarations`),
and a program of chains leaves the registry of that log (`chains_eq_declareAll`).

The links of a method's chain may come in any order, and a name may be given at any of them, although giving one
declares the method again. `chain_method` says what a chain makes of the method that was there: kind, name and return
type are its own, and all that it adds stands beside what earlier chains have added. So only the last name of a chain
counts, wherever it is given, and a chain can be brought into a form that names the method first
(`Method.chained_normalForm`).
-/

namespace EntityGraph

/-! ## Changing a method twice -/

namespace Registry

theorem updateMethod_updateMethod (r : Registry) (className method : String) (f g : Method → Method) :
    (r.updateMethod className method f).updateMethod className method g =
      r.updateMethod className method fun m => g (f m) := by
  unfold updateMethod
  simp only [Dict.update_update]

theorem method?_updateMethod_self (r : Registry) (className method : String) (f : Method → Method) :
    (r.updateMethod className method f).method? className method =
      some (f ((r.method? className method).getD { name := method })) := by
  unfold updateMethod method? resolver? Dict.update
  rw [Dict.get?_insert_self, Option.bind_some, Dict.get?_insert_self]
  cases r.resolvers.get? className <;> rfl

end Registry

/-! ## Chains as logs -/

def EntityLink.declaration (className : String) : EntityLink → Declaration
  | .primaryKey field scalar => .field className field (.primaryKey scalar) none
  | .primaryKeyAs field scalar wireName => .field className field (.primaryKey scalar) (some wireName)
  | .column field scalar => .field className field (.column scalar) none
  | .columnAs field scalar wireName => .field className field (.column scalar) (some wireName)
  | .foreignKey field target => .field className field (.foreignKey target none) none
  | .foreignKeyWithId field target key => .field className field (.foreignKey target (some (.named key))) none
  | .foreignKeyFlat field target => .field className field (.foreignKey target (some .conventional)) none

/-- A name declares the method once more, with the kind and the return type of the chain. -/
def MethodLink.declaration (className implementation method : String) (kind : RootKind) (returns : Option TypeRef) :
    MethodLink → Declaration
  | .named name => .method className method kind (some name) returns
  | .parameter name type => .parameter className method name type
  | .parameterOverride position type => .parameterOverride className method position type
  | .guard g => .guard className method g
  | .handler body => .handler className method ⟨some implementation, body⟩

/-- The declarations that a chain stands for. -/
def Chain.declarations : Chain → List Declaration
  | .entity c name links => .entity c name :: links.map (EntityLink.declaration c)
  | .method c implementation m kind returns links =>
    .method c m kind none returns :: links.map (MethodLink.declaration c implementation m kind returns)

namespace Registry

/-- A program of chains. -/
def chains (r : Registry) (program : List Chain) : Registry := program.foldl chain r

theorem declareAll_append (r : Registry) (log log' : List Declaration) :
    r.declareAll (log ++ log') = (r.declareAll log).declareAll log' := by
  unfold declareAll
  exact List.foldl_append

end Registry

theorem EntityChain.registry_foldl : ∀ (links : List EntityLink) (c : EntityChain),
    (links.foldl link c).registry = c.registry.declareAll (links.map (EntityLink.declaration c.className))
  | [], _ => rfl
  | l :: links, c => by
    have hclass : (c.link l).className = c.className := by cases l <;> rfl
    have hlink : (c.link l).registry = c.registry.declare (l.declaration c.className) := by cases l <;> rfl
    rw [List.foldl_cons, registry_foldl links, hclass, hlink]
    rfl

theorem MethodChain.registry_foldl : ∀ (links : List MethodLink) (c : MethodChain),
    (links.foldl link c).registry = c.registry.declareAll
      (links.map (MethodLink.declaration c.className c.implementation c.method c.kind c.returns))
  | [], _ => rfl
  | l :: links, c => by
    have hlink : c.link l = { c with
        registry := c.registry.declare (l.declaration c.className c.implementation c.method c.kind c.returns) } := by
      cases l <;> rfl
    rw [List.foldl_cons, hlink, registry_foldl links]
    rfl

namespace Registry

theorem chain_eq_declareAll (r : Registry) (c : Chain) : r.chain c = r.declareAll c.declarations := by
  cases c with
  | entity c name links =>
    cases name with
    | none => exact EntityChain.registry_foldl links _
    | some name => exact EntityChain.registry_foldl links _
  | method c implementation m kind returns links => exact MethodChain.registry_foldl links _

/-- **A program leaves what its declarations leave.** -/
theorem chains_eq_declareAll : ∀ (program : List Chain) (r : Registry),
    r.chains program = r.declareAll (program.flatMap Chain.declarations)
  | [], _ => rfl
  | c :: program, r => by
    change (r.chain c).chains program = _
    rw [chains_eq_declareAll program, chain_eq_declareAll, List.flatMap_cons, declareAll_append]

end Registry

/-! ## Methods -/

namespace MethodLink

def name? : MethodLink → Option String
  | .named name => some name
  | _ => none

def parameter? : MethodLink → Option Parameter
  | .parameter name type => some ⟨name, type⟩
  | _ => none

def override? : MethodLink → Option ParameterOverride
  | .parameterOverride position type => some ⟨position, type⟩
  | _ => none

def guard? : MethodLink → Option Guard
  | .guard g => some g
  | _ => none

/-- The handler that is bound in the chain of an implementation. -/
def handler? (implementation : String) : MethodLink → Option Handler
  | .handler body => some ⟨some implementation, body⟩
  | _ => none

/-- The last name of a chain in front of its other links. -/
def normalForm (links : List MethodLink) : List MethodLink :=
  ((links.filterMap name?).getLast?.map named).toList ++ links.filter (·.name?.isNone)

end MethodLink

/-- The method as a chain leaves it. -/
def Method.chained (m : Method) (implementation : String) (kind : RootKind) (returns : Option TypeRef)
    (links : List MethodLink) : Method where
  name := m.name
  kind := some kind
  exposedAs := (links.filterMap MethodLink.name?).getLast?
  returns := returns
  parameters := m.parameters ++ links.filterMap MethodLink.parameter?
  guards := (links.filterMap MethodLink.guard?).reverse ++ m.guards
  overrides := m.overrides ++ links.filterMap MethodLink.override?
  handler := (links.filterMap (MethodLink.handler? implementation)).getLast?.or m.handler

/-- **Whatever the order of the links**, kind, name and return type are the chain's, the last handler is bound, and all
else is added to what was there. -/
theorem Method.foldl_links (m : Method) (className implementation method : String) (kind : RootKind)
    (returns : Option TypeRef) (links : List MethodLink) :
    (links.map (MethodLink.declaration className implementation method kind returns)).foldl declare
      (m.declareKind kind none returns) = m.chained implementation kind returns links := by
  -- from the end, because the last name and the last handler count
  induction links using List.reverseRecOn with
  | nil => simp [chained, declareKind]
  | append_singleton links l ih =>
    rw [List.map_append, List.foldl_append, ih]
    unfold chained
    cases l <;>
      simp [MethodLink.declaration, declare, declareKind, addGuard, addOverride, addParameter, bindHandler,
        MethodLink.name?, MethodLink.parameter?, MethodLink.override?, MethodLink.guard?, MethodLink.handler?]

namespace MethodLink

/-- What does not come from names comes from the other links. -/
theorem filterMap_normalForm {α : Type} {g : MethodLink → Option α} (hnamed : ∀ name, g (named name) = none)
    (links : List MethodLink) : (normalForm links).filterMap g = links.filterMap g := by
  have hfirst : ((links.filterMap name?).getLast?.map named).toList.filterMap g = [] := by
    cases (links.filterMap name?).getLast? with
    | none => rfl
    | some name => simp [hnamed]
  unfold normalForm
  rw [List.filterMap_append, hfirst, List.nil_append, List.filterMap_filter]
  refine List.filterMap_congr fun l _ => ?_
  cases l with
  | named name => exact (hnamed name).symm
  | _ => rfl

theorem getLast?_names_normalForm (links : List MethodLink) :
    ((normalForm links).filterMap name?).getLast? = (links.filterMap name?).getLast? := by
  have hrest : (links.filter (·.name?.isNone)).filterMap name? = [] := by
    rw [List.filterMap_eq_nil_iff]
    intro l hl
    exact Option.isNone_iff_eq_none.1 (List.mem_filter.1 hl).2
  unfold normalForm
  rw [List.filterMap_append, hrest, List.append_nil]
  cases (links.filterMap name?).getLast? <;> rfl

end MethodLink

/-- **Where the names of a chain stand makes no difference**, and of several the last one counts. -/
theorem Method.chained_normalForm (m : Method) (implementation : String) (kind : RootKind) (returns : Option TypeRef)
    (links : List MethodLink) :
    m.chained implementation kind returns (MethodLink.normalForm links) =
      m.chained implementation kind returns links := by
  unfold chained
  rw [MethodLink.getLast?_names_normalForm, MethodLink.filterMap_normalForm (g := MethodLink.parameter?) fun _ => rfl,
    MethodLink.filterMap_normalForm (g := MethodLink.guard?) fun _ => rfl,
    MethodLink.filterMap_normalForm (g := MethodLink.override?) fun _ => rfl,
    MethodLink.filterMap_normalForm (g := MethodLink.handler? implementation) fun _ => rfl]

namespace Registry

variable {className method : String}

theorem declareAll_updateMethod : ∀ (own : List Declaration) (r : Registry) (f : Method → Method),
    (∀ d ∈ own, d.methodKey? = some (className, method)) →
      (r.updateMethod className method f).declareAll own =
        r.updateMethod className method fun m => own.foldl Method.declare (f m)
  | [], _, _, _ => rfl
  | d :: own, r, f, h => by
    obtain ⟨hd, hown⟩ := List.forall_mem_cons.1 h
    have hone : (r.updateMethod className method f).declare d =
        r.updateMethod className method fun m => (f m).declare d := by
      rw [← updateMethod_updateMethod r className method f (Method.declare · d)]
      cases d <;> cases hd <;> rfl
    change ((r.updateMethod className method f).declare d).declareAll own = _
    rw [hone, declareAll_updateMethod own r _ hown]
    rfl

/-- **A method's chain changes that method only**, and all of it at once. -/
theorem chain_method (r : Registry) (className implementation method : String) (kind : RootKind)
    (returns : Option TypeRef) (links : List MethodLink) :
    r.chain (.method className implementation method kind returns links) =
      r.updateMethod className method (·.chained implementation kind returns links) := by
  have hkeys : ∀ d ∈ links.map (MethodLink.declaration className implementation method kind returns),
      d.methodKey? = some (className, method) := by
    intro d hd
    obtain ⟨l, _, rfl⟩ := List.mem_map.1 hd
    cases l <;> rfl
  rw [chain_eq_declareAll]
  refine (declareAll_updateMethod _ r (·.declareKind kind none returns) hkeys).trans ?_
  simp only [Method.foldl_links]

/-- **Chains are their declarations**, whatever was declared before, and a method's chain has a normal form. The method
that it leaves is exposed under the last name of the chain, or else under its own, even if it had another name before.
The kind and the return type are the chain's; parameters, overrides and guards are added to those that were there,
guards in front; and a handler replaces the one that was bound. -/
theorem chains_are_declarations (log : List Declaration) (program : List Chain) :
    let r := ofDeclarations log
    r.chains program = ofDeclarations (log ++ program.flatMap Chain.declarations) ∧
    ∀ className implementation method kind returns links,
      let old := (r.method? className method).getD { name := method }
      let chained := r.chain (.method className implementation method kind returns links)
      chained = r.chain (.method className implementation method kind returns (MethodLink.normalForm links)) ∧
      ∃ m, chained.method? className method = some m ∧ m.name = method ∧ m.kind = some kind ∧ m.returns = returns ∧
        m.exposedAs = (links.filterMap MethodLink.name?).getLast? ∧
        m.exposedName = (links.filterMap MethodLink.name?).getLast?.getD method ∧
        m.parameters = old.parameters ++ links.filterMap MethodLink.parameter? ∧
        m.overrides = old.overrides ++ links.filterMap MethodLink.override? ∧
        m.guards = (links.filterMap MethodLink.guard?).reverse ++ old.guards ∧
        m.handler = (links.filterMap (MethodLink.handler? implementation)).getLast?.or old.handler := by
  intro r
  refine ⟨?_, fun className implementation method kind returns links => ?_⟩
  · rw [chains_eq_declareAll]
    exact (declareAll_append empty log _).symm
  · intro old chained
    -- a method that was declared before stands under its own name
    have hname : old.name = method := by
      change ((r.method? className method).getD { name := method }).name = method
      cases hold : r.method? className method with
      | none => rfl
      | some m => exact ((summary_log log).method className method m hold).name
    refine ⟨?_, old.chained implementation kind returns links, ?_, hname, rfl, rfl, rfl, ?_, rfl, rfl, rfl, rfl⟩
    · change r.chain _ = r.chain _
      rw [chain_method, chain_method]
      simp only [Method.chained_normalForm]
    · change (r.chain _).method? className method = _
      rw [chain_method, method?_updateMethod_self]
    · unfold Method.exposedName
      rw [← hname]
      rfl

/-- A second chain takes the name back that the first one gave, and adds to its parameters. -/
example :
    let r := empty.chains
      [.method "PetResolver" "PetResolver" "getPet" .query none [.parameter "id" (.ofScalar .float), .named "pet"],
        .method "PetResolver" "PetResolver" "getPet" .query none [.parameter "name" (.ofScalar .string)]]
    (r.method? "PetResolver" "getPet").map (fun m => (m.exposedName, m.parameters.map (·.name))) =
      some ("getPet", ["id", "name"]) := by
  decide

end Registry

end EntityGraph
