import EntityGraph.Parameters
import EntityGraph.Proofs.Registry.References
/-!
# What methods are exposed, and what they take

A method is exposed if its kind, a return type that is known and its handler were all declared. It takes every
parameter that was not declared of the context's type, each with its effective type: that of the last override for
its place, counted among all parameters, or else the declared one (`parameterType?_getD`).
-/

namespace EntityGraph

namespace Registry

/-- The methods of a class in order of declaration. -/
def methods (r : Registry) (className : String) : List Method :=
  ((r.resolver? className).map (·.methods.values)).getD []

/-- The model of the entity that a declared type names. -/
def entityFor? (r : Registry) (name : String) : Option Model :=
  (r.findModel? name).filter fun m => decide (r.IsEntity m.className)

/-- A declared type is known if it names a scalar or an entity. -/
def knows (r : Registry) (t : TypeRef) : Bool := t.scalar?.isSome || (r.entityFor? t.name).isSome

def exposes (r : Registry) (m : Method) : Bool := m.kind.isSome && m.returns.any r.knows && m.handler.isSome

/-- How an argument of a declared type is made. -/
def formOf (r : Registry) (t : TypeRef) : ParameterForm :=
  match t.scalar? with
  | some _ => .scalar
  | none =>
    match r.entityFor? t.name with
    | some m => .model m.className t.list
    | none => .unknown

variable {r : Registry} {name : String} {m : Model}

theorem entityFor?_eq_none (h : r.findModel? name = none) : r.entityFor? name = none := by
  unfold entityFor?
  rw [h]
  rfl

theorem entityFor?_of_findModel? (h : r.findModel? name = some m) :
    r.entityFor? name = if r.IsEntity m.className then some m else none := by
  unfold entityFor?
  rw [h, Option.filter_some]
  simp only [decide_eq_true_eq]

end Registry

namespace Method

/-- The type of the parameter `p` at a position, overrides included. -/
def effectiveType (m : Method) (position : Nat) (p : Parameter) : TypeRef :=
  (((m.overrides.filter (·.position == position)).getLast?).map (·.type)).getD p.type

/-- The parameters that are not the context, with their effective types. -/
def taken (m : Method) (contextTypeName : String) : List (Parameter × TypeRef) :=
  (m.parameters.zipIdx.filter fun p => !Text.equalsIgnoringCase p.1.type.name contextTypeName).map
    fun p => (p.1, m.effectiveType p.2 p.1)

variable {m : Method} {position : Nat} {p : Parameter}

/-- The last override for a position is the first one read from the end. -/
theorem find?_reverse_overrides (m : Method) (position : Nat) :
    m.overrides.reverse.find? (·.position == position) = (m.overrides.filter (·.position == position)).getLast? := by
  rw [List.getLast?_eq_head?_reverse, ← List.filter_reverse, List.head?_filter]

theorem parameterType?_getD (h : m.parameters[position]? = some p) :
    (m.parameterType? position).getD p.type = m.effectiveType position p := by
  unfold parameterType? effectiveType
  rw [find?_reverse_overrides, h]
  cases (m.overrides.filter (·.position == position)).getLast? <;> rfl

end Method

end EntityGraph
