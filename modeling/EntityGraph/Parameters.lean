import EntityGraph.Call
import EntityGraph.Fill
/-!
# From supplied arguments to a method's parameters

A `ParameterPlan` says how one parameter is made from the value supplied under its name. Whatever is absent or null
becomes the null argument, and there is exactly one argument per plan, in the order of the plans.
-/

namespace EntityGraph

inductive ParameterForm
  /-- Passed on unchanged. -/
  | scalar
  /-- Filled into an instance, item by item if it is a list. -/
  | model (className : String) (list : Bool)
  /-- Neither a scalar nor an entity: always null. -/
  | unknown
deriving DecidableEq

structure ParameterPlan where
  name : String
  form : ParameterForm
deriving DecidableEq

namespace Registry

def marshalModel (r : Registry) (className : String) (v : Value) : Logged Argument := do
  let filled ← r.fill (some v) (some className)
  pure (match filled with | some i => .model i | none => .null)

/-- A value that is no list stands for the list of itself. -/
def marshalModels (r : Registry) (className : String) (v : Value) : Logged Argument := do
  let items ← Logged.each (r.marshalModel className) (match v with | .list items => items | single => [single])
  pure (.list items)

def marshal (r : Registry) (form : ParameterForm) : Option Value → Logged Argument
  | none => pure .null
  | some .null => pure .null
  | some v =>
    match form with
    | .scalar => pure (.scalar v)
    | .model className false => r.marshalModel className v
    | .model className true => r.marshalModels className v
    | .unknown => pure .null

def marshalAll (r : Registry) (plans : List ParameterPlan) (supplied : Dict Value) : Logged (List Argument) :=
  Logged.each (fun plan => r.marshal plan.form (supplied.get? plan.name)) plans

end Registry

end EntityGraph
