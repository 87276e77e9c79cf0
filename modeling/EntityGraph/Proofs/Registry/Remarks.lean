import EntityGraph.Proofs.Registry.Exposure
import EntityGraph.Proofs.Registry.Log
/-!
# What is remarked on methods and classes

Beside the foreign keys that the compiler omits, the preparation of a method is remarked on, and the remarks follow
from its declaration alone: there are none on a method without a kind, one on any other method that is not exposed,
saying what is missing first, and one for each parameter of unknown type of a method that is exposed (`Remarked`). A
class of which no method was declared is remarked on once.
-/

namespace EntityGraph

/-- A note on a root field that takes the place of another. -/
def Diagnostic.isRepetition : Diagnostic → Bool
  | .duplicateRootField _ _ => true
  | _ => false

namespace Registry

variable {r : Registry} {contextTypeName className : String} {m : Method}

/-- What is missing of a method that was meant to be exposed. -/
inductive Lacks (r : Registry) (className : String) (m : Method) : Diagnostic → Prop
  | returnType (hreturns : m.returns = none) : Lacks r className m (.noReturnType className m.name)
  | knownType {returns : TypeRef} (hreturns : m.returns = some returns) (hunknown : r.knows returns = false) :
    Lacks r className m (.unknownReturnType className m.name returns)
  | handler {returns : TypeRef} (hreturns : m.returns = some returns) (hknown : r.knows returns = true)
    (hhandler : m.handler = none) : Lacks r className m (.noHandler className m.name)

/-- One remark for each of some parameters of unknown type. -/
def unknownAmong (r : Registry) (className : String) (m : Method) (taken : List (Parameter × TypeRef)) :
    List Diagnostic :=
  (taken.filter fun a => !r.knows a.2).map fun a => .unknownParameterType className m.name a.1.name a.2

theorem unknownAmong_cons (r : Registry) (className : String) (m : Method) (a : Parameter × TypeRef)
    (taken : List (Parameter × TypeRef)) :
    r.unknownAmong className m (a :: taken) = r.unknownAmong className m [a] ++ r.unknownAmong className m taken := by
  unfold unknownAmong
  rw [← List.map_append, ← List.filter_append]
  rfl

/-- One remark for each parameter of unknown type, the context apart. -/
def unknownParameters (r : Registry) (contextTypeName className : String) (m : Method) : List Diagnostic :=
  r.unknownAmong className m (m.taken contextTypeName)

/-- All remarks on a method of a class. -/
def remarksOn (r : Registry) (contextTypeName className : String) (m : Method) : List Diagnostic :=
  match m.kind, m.returns with
  | none, _ => []
  | some _, none => [.noReturnType className m.name]
  | some _, some returns =>
    if r.knows returns then
      match m.handler with
      | none => [.noHandler className m.name]
      | some _ => r.unknownParameters contextTypeName className m
    else [.unknownReturnType className m.name returns]

/-- All remarks on a class. -/
def remarksOnClass (r : Registry) (contextTypeName className : String) : List Diagnostic :=
  match r.resolver? className with
  | none => [.noMethods className]
  | some c => c.methods.values.flatMap (r.remarksOn contextTypeName className)

theorem exposes_iff : r.exposes m = true ↔ m.kind.isSome = true ∧
    (∃ returns, m.returns = some returns ∧ (returns.scalar?.isSome = true ∨
      ∃ model, r.findModel? returns.name = some model ∧ r.IsEntity model.className)) ∧ m.handler.isSome = true := by
  simp [exposes, knows, entityFor?, and_assoc, Option.any_eq_true, Option.isSome_iff_exists]

theorem remarksOn_of_no_kind (h : m.kind = none) : r.remarksOn contextTypeName className m = [] := by
  unfold remarksOn
  rw [h]

theorem remarksOn_of_exposes (h : r.exposes m = true) :
    r.remarksOn contextTypeName className m = r.unknownParameters contextTypeName className m := by
  unfold exposes at h
  rw [Bool.and_eq_true, Bool.and_eq_true, Option.any_eq_true] at h
  obtain ⟨⟨hkind, returns, hreturns, hknown⟩, hhandler⟩ := h
  obtain ⟨kind, hkind⟩ := Option.isSome_iff_exists.1 hkind
  obtain ⟨handler, hhandler⟩ := Option.isSome_iff_exists.1 hhandler
  unfold remarksOn
  simp only [hkind, hreturns, hknown, hhandler, ↓reduceIte]

/-- **A method that was meant to be exposed and is not has one remark**, on what is missing first. -/
theorem remarksOn_of_lacking (hkind : m.kind.isSome = true) (h : r.exposes m = false) :
    ∃ d, r.Lacks className m d ∧ r.remarksOn contextTypeName className m = [d] := by
  obtain ⟨kind, hkind⟩ := Option.isSome_iff_exists.1 hkind
  unfold remarksOn
  rw [hkind]
  cases hreturns : m.returns with
  | none => exact ⟨_, .returnType hreturns, rfl⟩
  | some returns =>
    cases hknown : r.knows returns with
    | false => exact ⟨_, .knownType hreturns hknown, by simp only [hknown, Bool.false_eq_true, ↓reduceIte]⟩
    | true =>
      cases hhandler : m.handler with
      | none => exact ⟨_, .handler hreturns hknown hhandler, by simp only [hknown, ↓reduceIte]⟩
      | some handler => simp [exposes, hkind, hreturns, hknown, hhandler] at h

/-- The remarks on a method say what keeps it from being exposed, or which of its parameters are of no known type. -/
structure Remarked (r : Registry) (contextTypeName className : String) (m : Method) : Prop where
  exposed_iff : r.exposes m = true ↔ m.kind.isSome = true ∧
    (∃ returns, m.returns = some returns ∧ (returns.scalar?.isSome = true ∨
      ∃ model, r.findModel? returns.name = some model ∧ r.IsEntity model.className)) ∧ m.handler.isSome = true
  of_no_kind : m.kind = none → r.remarksOn contextTypeName className m = []
  of_lacking : m.kind.isSome = true → r.exposes m = false →
    ∃ d, r.Lacks className m d ∧ r.remarksOn contextTypeName className m = [d]
  of_exposed : r.exposes m = true →
    r.remarksOn contextTypeName className m = r.unknownParameters contextTypeName className m

theorem remarked (r : Registry) (contextTypeName className : String) (m : Method) :
    r.Remarked contextTypeName className m :=
  ⟨exposes_iff, remarksOn_of_no_kind, remarksOn_of_lacking, remarksOn_of_exposes⟩

/-! ## Remarks are no repetitions -/

theorem isRepetition_of_mem_remarksOn {d : Diagnostic} (hd : d ∈ r.remarksOn contextTypeName className m) :
    d.isRepetition = false := by
  unfold remarksOn at hd
  split at hd
  · cases hd
  · rw [List.mem_singleton.1 hd]
    rfl
  · split at hd
    · split at hd
      · rw [List.mem_singleton.1 hd]
        rfl
      · obtain ⟨a, _, rfl⟩ := List.mem_map.1 hd
        rfl
    · rw [List.mem_singleton.1 hd]
      rfl

theorem isRepetition_of_mem_remarksOnClass {d : Diagnostic} (hd : d ∈ r.remarksOnClass contextTypeName className) :
    d.isRepetition = false := by
  unfold remarksOnClass at hd
  split at hd
  · rw [List.mem_singleton.1 hd]
    rfl
  · obtain ⟨m, _, hd⟩ := List.mem_flatMap.1 hd
    exact isRepetition_of_mem_remarksOn hd

/-! ## Classes without methods -/

/-- A resolver class comes into being with its first method. -/
theorem methods_ne_nil {log : List Declaration} {c : ResolverClass}
    (h : (ofDeclarations log).resolver? className = some c) : (ofDeclarations log).methods className ≠ [] := by
  have hmentioned : className ∈ log.filterMap Declaration.resolverClass? := by
    unfold resolver? at h
    rw [resolvers_ofDeclarations, Dict.get?_collect] at h
    by_contra hno
    rw [if_neg hno] at h
    cases h
  obtain ⟨d, hd, hclass⟩ := List.mem_filterMap.1 hmentioned
  obtain ⟨⟨_, method⟩, hkey, rfl⟩ := Option.map_eq_some_iff.1 hclass
  have hname : d.methodName? = some method := by rw [Declaration.methodName?, hkey]; rfl
  have hown : d ∈ Declaration.ofResolver _ log := List.mem_filter.2 ⟨hd, beq_iff_eq.2 hclass⟩
  have hmethod : method ∈ c.methods.keys := by
    rw [eq_of_resolver? h, Dict.keys_collect, List.mem_eraseDups]
    exact List.mem_filterMap.2 ⟨d, hown, hname⟩
  unfold methods
  rw [h, Option.map_some, Option.getD_some]
  intro hnil
  unfold Dict.keys at hmethod
  rw [List.map_eq_nil_iff.1 hnil] at hmethod
  cases hmethod

/-- **A class without methods is remarked on once**, and other classes method by method. -/
theorem remarksOnClass_ofDeclarations (log : List Declaration) (contextTypeName className : String) :
    let r := ofDeclarations log
    r.remarksOnClass contextTypeName className =
      if (r.methods className).isEmpty then [.noMethods className]
      else (r.methods className).flatMap (r.remarksOn contextTypeName className) := by
  intro r
  have hne : ∀ {c}, r.resolver? className = some c → r.methods className ≠ [] := methods_ne_nil
  unfold remarksOnClass
  cases hc : r.resolver? className with
  | none =>
    have hnil : r.methods className = [] := by rw [methods, hc]; rfl
    rw [hnil]
    rfl
  | some c =>
    have hmethods : r.methods className = c.methods.values := by rw [methods, hc]; rfl
    rw [if_neg (by rw [List.isEmpty_iff]; exact hne hc), hmethods]

end Registry

end EntityGraph
