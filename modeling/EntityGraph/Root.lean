import EntityGraph.Guard
import EntityGraph.Parameters
import EntityGraph.Registry.Method
/-!
# Root fields and their dispatch

An exposed method becomes a field of the query or the mutation root. When the field is asked for, its guards run
first; if one denies the call the field is null and nothing else happens. Otherwise the arguments are made and the
handler runs once, with the request and the response that the guards saw.
-/

namespace EntityGraph

/-- Everything that a root field needs to dispatch a call. -/
structure RootPlan where
  className : String
  method : String
  parameters : List ParameterPlan
  guards : List Guard
  handler : Handler
  resolver : ResolverInstance

structure RootField where
  kind : RootKind
  name : String
  returns : TypeRef
  arguments : List (String × TypeRef)
  plan : RootPlan

/-! ## Calls -/

/-- A call as it reached a handler. -/
structure CallRecord where
  className : String
  method : String
  arguments : List Argument
  requestId : Option String

/-- The serials of the instances that handled calls, the earliest call first. -/
abbrev Tally := List Nat

/-- What one dispatch did. -/
structure Dispatch where
  /-- The field's value, if it has one that is not null. -/
  result : Except Failure (Option Value)
  response : Response
  tally : Tally
  /-- The guards that ran. -/
  guards : List String
  calls : List CallRecord

namespace RootPlan

/-- The instance as the handler sees it, and the tally with the present call. Only a handler that is declared for an
implementation knows the instance and is counted. -/
def receive (plan : RootPlan) (tally : Tally) : Receiver × Tally :=
  match plan.handler.implementation with
  | some _ =>
    let tally := tally ++ [plan.resolver.serial]
    (⟨plan.resolver.label, tally.count plan.resolver.serial⟩, tally)
  | none => (Handler.anonymous, tally)

/-- Runs the handler on made arguments. -/
def call (plan : RootPlan) (arguments : List Argument) (request : Request) (run : GuardRun) (tally : Tally) :
    Dispatch :=
  if plan.handler.accepts plan.resolver then
    let (receiver, tally) := plan.receive tally
    let (result, response) := plan.handler.body ⟨receiver, arguments, request⟩ run.response
    { result := result.map fun v => if v.isNull then none else some v
      response, tally
      guards := run.ran
      calls := [⟨plan.className, plan.method, arguments, request.id⟩] }
  else
    { result := .error (GraphError.resolverMismatch plan.className).toFailure
      response := run.response, tally
      guards := run.ran
      calls := [] }

def dispatch (plan : RootPlan) (registry : Registry) (supplied : Dict Value) (request : Request)
    (response : Response) (tally : Tally) : Logged Dispatch :=
  let run := Guard.run plan.guards request response
  match run.verdict with
  | .denied _ => pure ⟨.ok none, run.response, tally, run.ran, []⟩
  | .allowed => do
    let arguments ← registry.marshalAll plan.parameters supplied
    pure (plan.call arguments request run tally)

end RootPlan

end EntityGraph
