import EntityGraph.Proofs.Request.Walk
import Mathlib.Logic.Basic
/-!
# The body of a method runs for whom its guards let through

The guards of a field either all proceed, each on the response that the one before it left (`Guard.Pass`), or one of
them does not (`Guard.Deny`). Only in the first case, and only on an instance of the implementation that the handler
was declared for, the body runs. It then runs once, on the response that the last guard left, and is recorded once.

Fields are asked for again and again, by requests that may share a response with earlier ones. What holds of one
request holds after any others, whatever they wrote (`authorized_dispatch`), so that the record of a whole run is that
of the requests that were let through (`calls_serveAll`). Executing a query is such a run: all that it does to the
response and to the record is what requests for its root fields do, one after the other (`Environment.keeps_serves`).
-/

namespace EntityGraph

/-! ## Guards -/

namespace Guard

variable {request : Request} {g : Guard} {gs : List Guard} {response after left : Response}

/-- All guards proceed, the first from `response`, and the last leaves `after`. -/
inductive Pass (request : Request) : List Guard → Response → Response → Prop
  | nil (response : Response) : Pass request [] response response
  | cons {g : Guard} {gs : List Guard} {response next after : Response} :
      g.check request response = (true, next) → Pass request gs next after → Pass request (g :: gs) response after

/-- Some guard does not proceed, although all before it did, and leaves `left`. -/
inductive Deny (request : Request) : List Guard → Response → Response → Prop
  | here {g : Guard} {gs : List Guard} {response left : Response} :
      g.check request response = (false, left) → Deny request (g :: gs) response left
  | later {g : Guard} {gs : List Guard} {response next left : Response} :
      g.check request response = (true, next) → Deny request gs next left → Deny request (g :: gs) response left

theorem runFrom_of_pass (h : Pass request gs response after) : ∀ position : Nat,
    (runFrom request position gs response).verdict = .allowed ∧
      (runFrom request position gs response).response = after := by
  induction h with
  | nil response => exact fun _ => ⟨rfl, rfl⟩
  | cons hcheck _ ih =>
    intro position
    unfold runFrom
    rw [hcheck]
    exact ih (position + 1)

theorem runFrom_of_deny (h : Deny request gs response left) : ∀ position : Nat,
    (∃ n, (runFrom request position gs response).verdict = .denied n) ∧
      (runFrom request position gs response).response = left := by
  induction h with
  | here hcheck =>
    intro position
    unfold runFrom
    rw [hcheck]
    exact ⟨⟨position, rfl⟩, rfl⟩
  | later hcheck _ ih =>
    intro position
    unfold runFrom
    rw [hcheck]
    exact ih (position + 1)

theorem pass_or_deny (request : Request) : ∀ (gs : List Guard) (response : Response),
    (∃ after, Pass request gs response after) ∨ ∃ left, Deny request gs response left
  | [], response => .inl ⟨response, .nil response⟩
  | g :: gs, response => by
    cases hcheck : g.check request response with
    | mk proceeds next =>
      cases proceeds with
      | false => exact .inr ⟨next, .here hcheck⟩
      | true =>
        rcases pass_or_deny request gs next with ⟨after, hpass⟩ | ⟨left, hdeny⟩
        · exact .inl ⟨after, .cons hcheck hpass⟩
        · exact .inr ⟨left, .later hcheck hdeny⟩

/-- **Guards allow a call just when all of them proceed.** -/
theorem run_allowed_iff : (run gs request response).verdict = .allowed ↔ ∃ after, Pass request gs response after := by
  constructor
  · intro hallowed
    refine (pass_or_deny request gs response).resolve_right ?_
    rintro ⟨left, hdeny⟩
    obtain ⟨n, hdenied⟩ := (runFrom_of_deny hdeny 0).1
    have hboth : Verdict.allowed = .denied n := hallowed.symm.trans hdenied
    cases hboth
  · rintro ⟨after, hpass⟩
    exact (runFrom_of_pass hpass 0).1

theorem not_pass_iff : (¬ ∃ after, Pass request gs response after) ↔ ∃ left, Deny request gs response left := by
  constructor
  · exact (pass_or_deny request gs response).resolve_left
  · rintro ⟨left, hdeny⟩ hpass
    obtain ⟨n, hdenied⟩ := (runFrom_of_deny hdeny 0).1
    have hboth : Verdict.allowed = .denied n := (run_allowed_iff.2 hpass).symm.trans hdenied
    cases hboth

instance : Decidable (∃ after, Pass request gs response after) := decidable_of_iff _ run_allowed_iff

end Guard

namespace Handler

/-- The handler was declared for the implementation of the instance, if for any. -/
def Suits (h : Handler) (i : ResolverInstance) : Prop :=
  ∀ implementation, h.implementation = some implementation → implementation = i.implementation

theorem accepts_iff {h : Handler} {i : ResolverInstance} : h.accepts i = true ↔ h.Suits i := by
  unfold accepts Suits
  cases h.implementation with
  | none => simp
  | some implementation => simp

instance (h : Handler) (i : ResolverInstance) : Decidable (h.Suits i) := decidable_of_iff _ accepts_iff

end Handler

/-! ## Requests for fields -/

structure Invocation where
  /-- The attached context. Without one there is an empty request, and a response that nobody else sees. -/
  context : Option RequestContext
  supplied : Dict Value

/-- What all requests so far have left. -/
structure History where
  responses : Responses
  tally : Tally
  calls : List CallRecord

namespace Invocation

def request (i : Invocation) : Request := (i.context.map (·.request)).getD {}

def response (i : Invocation) (h : History) : Response := (i.context.map (·.response.read h.responses)).getD {}

end Invocation

/-- The responses once the request has left its own as `response`. -/
def History.write (h : History) (i : Invocation) (response : Response) : Responses :=
  match i.context with
  | some c => c.response.write (fun _ => response) h.responses
  | none => h.responses

def RootPlan.serve (plan : RootPlan) (registry : Registry) (h : History) (i : Invocation) :
    Except Failure (Option Value) × History :=
  let outcome := (plan.dispatch registry i.supplied i.request (i.response h) h.tally).value
  (outcome.result, ⟨h.write i outcome.response, outcome.tally, h.calls ++ outcome.calls⟩)

/-- Requests for some fields, each after what those before it have left. -/
def History.serveAll (registry : Registry) (h : History) (asked : List (RootPlan × Invocation)) : History :=
  asked.foldl (fun h a => (a.1.serve registry h a.2).2) h

namespace RootPlan

/-- All guards proceed, and the instance is one that the handler was declared for. -/
def Authorizes (plan : RootPlan) (h : History) (i : Invocation) : Prop :=
  (∃ after, Guard.Pass i.request plan.guards (i.response h) after) ∧ plan.handler.Suits plan.resolver

instance (plan : RootPlan) (h : History) (i : Invocation) : Decidable (plan.Authorizes h i) := instDecidableAnd

def callFor (plan : RootPlan) (registry : Registry) (h : History) (i : Invocation) : Call :=
  ⟨(plan.receive h.tally).1, (registry.marshalAll plan.parameters i.supplied).value, i.request⟩

def recordOf (plan : RootPlan) (registry : Registry) (i : Invocation) : CallRecord :=
  ⟨plan.className, plan.method, (registry.marshalAll plan.parameters i.supplied).value, i.request.id⟩

/-- What the client gets for what a body returns. -/
def reply : Except Failure Value → Except Failure (Option Value)
  | .error failure => .error failure
  | .ok .null => .ok none
  | .ok v => .ok (some v)

def withBody (plan : RootPlan) (body : Call → Response → Except Failure Value × Response) : RootPlan :=
  { plan with handler := { plan.handler with body } }

variable {plan : RootPlan} {registry : Registry} {h : History} {i : Invocation} {after left : Response}

theorem reply_eq (result : Except Failure Value) :
    (result.map fun v => if v.isNull then none else some v) = reply result := by
  cases result with
  | error failure => rfl
  | ok v => cases v <;> rfl

/-! ## What becomes of one request -/

theorem serve_of_pass (hpass : Guard.Pass i.request plan.guards (i.response h) after)
    (hsuits : plan.handler.Suits plan.resolver) :
    plan.serve registry h i =
      let answer := plan.handler.body (plan.callFor registry h i) after
      (reply answer.1, ⟨h.write i answer.2, (plan.receive h.tally).2, h.calls ++ [plan.recordOf registry i]⟩) := by
  obtain ⟨hverdict, hresponse⟩ := Guard.runFrom_of_pass hpass 0
  unfold serve dispatch Guard.run
  simp only [hverdict, Logged.value_bind, Logged.value_pure, call, if_pos (Handler.accepts_iff.2 hsuits), hresponse,
    reply_eq]
  rfl

theorem serve_of_mismatch (hpass : Guard.Pass i.request plan.guards (i.response h) after)
    (hsuits : ¬ plan.handler.Suits plan.resolver) :
    plan.serve registry h i =
      (.error (GraphError.resolverMismatch plan.className).toFailure, { h with responses := h.write i after }) := by
  obtain ⟨hverdict, hresponse⟩ := Guard.runFrom_of_pass hpass 0
  have haccepts : ¬ plan.handler.accepts plan.resolver = true := hsuits ∘ Handler.accepts_iff.1
  unfold serve dispatch Guard.run
  simp only [hverdict, Logged.value_bind, Logged.value_pure, call, if_neg haccepts, hresponse, List.append_nil]

theorem serve_of_deny (hdeny : Guard.Deny i.request plan.guards (i.response h) left) :
    plan.serve registry h i = (.ok none, { h with responses := h.write i left }) := by
  obtain ⟨⟨n, hverdict⟩, hresponse⟩ := Guard.runFrom_of_deny hdeny 0
  unfold serve dispatch Guard.run
  simp only [hverdict, Logged.value_pure, hresponse, List.append_nil]

theorem calls_serve : (plan.serve registry h i).2.calls =
    h.calls ++ if plan.Authorizes h i then [plan.recordOf registry i] else [] := by
  rcases Guard.pass_or_deny i.request plan.guards (i.response h) with ⟨after, hpass⟩ | ⟨left, hdeny⟩
  · by_cases hsuits : plan.handler.Suits plan.resolver
    · rw [serve_of_pass hpass hsuits, if_pos ⟨⟨after, hpass⟩, hsuits⟩]
    · rw [serve_of_mismatch hpass hsuits, if_neg fun hauth => hsuits hauth.2, List.append_nil]
  · rw [serve_of_deny hdeny, if_neg fun hauth => Guard.not_pass_iff.2 ⟨left, hdeny⟩ hauth.1, List.append_nil]

theorem serve_withBody (hdenied : ¬ plan.Authorizes h i) (body : Call → Response → Except Failure Value × Response) :
    (plan.withBody body).serve registry h i = plan.serve registry h i := by
  rcases Guard.pass_or_deny i.request plan.guards (i.response h) with ⟨after, hpass⟩ | ⟨left, hdeny⟩
  · have hsuits : ¬ plan.handler.Suits plan.resolver := fun hsuits => hdenied ⟨⟨after, hpass⟩, hsuits⟩
    have hpass' : Guard.Pass i.request (plan.withBody body).guards (i.response h) after := hpass
    rw [serve_of_mismatch hpass hsuits, serve_of_mismatch hpass' hsuits]
    rfl
  · have hdeny' : Guard.Deny i.request (plan.withBody body).guards (i.response h) left := hdeny
    rw [serve_of_deny hdeny, serve_of_deny hdeny']

end RootPlan

/-! ## Whole runs -/

namespace History

variable {registry : Registry}

/-- The requests that are let through, each judged by what those before it left. -/
def admitted (registry : Registry) : History → List (RootPlan × Invocation) → List (RootPlan × Invocation)
  | _, [] => []
  | h, a :: asked =>
    let rest := admitted registry (a.1.serve registry h a.2).2 asked
    if a.1.Authorizes h a.2 then a :: rest else rest

theorem admitted_cons (h : History) (a : RootPlan × Invocation) (asked : List (RootPlan × Invocation)) :
    h.admitted registry (a :: asked) = if a.1.Authorizes h a.2
      then a :: (a.1.serve registry h a.2).2.admitted registry asked
      else (a.1.serve registry h a.2).2.admitted registry asked := rfl

/-- **The record of a run is that of the requests that were let through.** -/
theorem calls_serveAll : ∀ (asked : List (RootPlan × Invocation)) (h : History), (h.serveAll registry asked).calls =
    h.calls ++ (h.admitted registry asked).map fun a => a.1.recordOf registry a.2
  | [], h => (List.append_nil _).symm
  | a :: asked, h => by
    have hrest := calls_serveAll asked (a.1.serve registry h a.2).2
    -- whether the first request is let through is judged by `h`, of the others by what it leaves
    rw [RootPlan.calls_serve, List.append_assoc] at hrest
    refine hrest.trans (congrArg (h.calls ++ ·) ?_)
    rw [admitted_cons]
    by_cases hauth : a.1.Authorizes h a.2
    · rw [if_pos hauth, if_pos hauth]
      rfl
    · rw [if_neg hauth, if_neg hauth]
      rfl

theorem serveAll_append (h : History) (asked more : List (RootPlan × Invocation)) :
    h.serveAll registry (asked ++ more) = (h.serveAll registry asked).serveAll registry more := List.foldl_append

end History

/-! ## Executed requests -/

/-- What a request has done so far, as what the next of its root fields finds. Its response is the only one. -/
def Progress.history (p : Progress) : History :=
  ⟨⟨1, fun address => if address = 0 then p.response else {}⟩, p.tally, p.calls⟩

namespace Environment

variable {e : Environment} {p q : Progress}

def invocation (e : Environment) (supplied : List (String × Value)) : Invocation :=
  ⟨e.request.map fun r => ⟨r, ⟨0⟩⟩, Dict.ofList supplied⟩

/-- A request for a root field finds the response of the query, if there is one, and leaves its own in its place. -/
theorem serve_invocation (e : Environment) (plan : RootPlan) (supplied : List (String × Value)) (p : Progress) :
    plan.serve e.registry p.history (e.invocation supplied) =
      let outcome := (plan.dispatch e.registry (Dict.ofList supplied) (e.request.getD {})
        (if e.request.isSome then p.response else {}) p.tally).value
      (outcome.result, (p.record outcome (if e.request.isSome then outcome.response else p.response)).history) := by
  have hrequest : (e.invocation supplied).request = e.request.getD {} := by
    unfold invocation Invocation.request
    cases e.request <;> rfl
  have hresponse : (e.invocation supplied).response p.history = if e.request.isSome then p.response else {} := by
    unfold invocation Invocation.response
    cases e.request <;> rfl
  -- only the query's own response is ever written to
  have hwrite : ∀ left, p.history.write (e.invocation supplied) left =
      ⟨1, fun address => if address = 0 then (if e.request.isSome then left else p.response) else {}⟩ := by
    intro left
    unfold invocation History.write
    cases e.request with
    | none => rfl
    | some r =>
      refine congrArg (Responses.mk 1) (funext fun address => ?_)
      by_cases ha : address = 0
      · subst ha
        rfl
      · exact (if_neg ha).trans ((if_neg ha).trans (if_neg ha).symm)
  unfold RootPlan.serve
  rw [hrequest, hresponse]
  dsimp only
  rw [hwrite]
  rfl

/-- What becomes of a root field while a query is executed: it is served like a request for it alone, and a failure is
reported as it is. -/
structure DispatchServes (e : Environment) (plan : RootPlan) (supplied : List (String × Value)) (p : Progress) :
    Prop where
  value : (e.dispatch plan supplied p).1 = (plan.serve e.registry p.history (e.invocation supplied)).1.toOption
  history : (e.dispatch plan supplied p).2.history = (plan.serve e.registry p.history (e.invocation supplied)).2
  errors : (e.dispatch plan supplied p).2.errors =
    p.errors ++ match (plan.serve e.registry p.history (e.invocation supplied)).1 with
      | .ok _ => []
      | .error f => [⟨f.message, [], f.code⟩]

theorem dispatch_serves (e : Environment) (plan : RootPlan) (supplied : List (String × Value)) (p : Progress) :
    e.DispatchServes plan supplied p := by
  have hserve := serve_invocation e plan supplied p
  dsimp only at hserve
  cases hresult : (plan.dispatch e.registry (Dict.ofList supplied) (e.request.getD {})
      (if e.request.isSome then p.response else {}) p.tally).value.result with
  | ok v =>
    rw [hresult] at hserve
    constructor
    all_goals
      unfold dispatch
      simp only [hserve, hresult]
    · rfl
    · rfl
    · exact (List.append_nil _).symm
  | error f =>
    rw [hresult] at hserve
    constructor
    all_goals
      unfold dispatch
      simp only [hserve, hresult]
      rfl

/-- A request for a root field of the schema. -/
def MayServe (e : Environment) (a : RootPlan × Invocation) : Prop :=
  ∃ t ∈ e.schema.table.outputs, ∃ field ∈ t.fields, field.source = .root a.1 ∧
    ∃ supplied, a.2 = e.invocation supplied

/-- From `p` to `q` such requests were served one after the other, and nothing else was done to the response, the tally
and the record. -/
def Serves (e : Environment) (p q : Progress) : Prop :=
  ∃ asked, (∀ a ∈ asked, e.MayServe a) ∧ q.history = p.history.serveAll e.registry asked

theorem serves_of_history_eq (h : q.history = p.history) : e.Serves p q :=
  ⟨[], fun _ ha => absurd ha List.not_mem_nil, h⟩

theorem Serves.trans {q' : Progress} (h : e.Serves p q) (h' : e.Serves q q') : e.Serves p q' := by
  obtain ⟨asked, hasked, hq⟩ := h
  obtain ⟨more, hmore, hq'⟩ := h'
  exact ⟨asked ++ more, List.forall_mem_append.2 ⟨hasked, hmore⟩, by rw [hq', hq, History.serveAll_append]⟩

/-- Of the fields of the schema's types only root fields serve a request, and each serves one. -/
theorem serves_fieldValue {t : OutputType} (ht : t ∈ e.schema.table.outputs) {field : OutputField}
    (hfield : field ∈ t.fields) (parent : Value) (supplied : List (String × Value)) (p : Progress) :
    e.Serves p (e.fieldValue field parent supplied p).2 := by
  unfold fieldValue
  split
  · exact serves_of_history_eq rfl
  · exact serves_of_history_eq rfl
  · rename_i plan hsource
    refine ⟨[(plan, e.invocation supplied)], fun a ha => ?_, (e.dispatch_serves plan supplied p).history⟩
    rw [List.mem_singleton.1 ha]
    exact ⟨t, ht, field, hfield, hsource, supplied, rfl⟩
  · exact serves_of_history_eq rfl

/-- **Executing a query serves requests for root fields**, and does nothing else to the record. -/
theorem keeps_serves (e : Environment) : e.Keeps e.Serves where
  refl _ := serves_of_history_eq rfl
  trans := Serves.trans
  fail _ _ := serves_of_history_eq rfl
  fieldValue _ ht _ hfield := serves_fieldValue ht hfield

end Environment

/-! ## Authorized dispatch -/

namespace RootPlan

variable {plan : RootPlan} {registry : Registry} {h : History} {i : Invocation}

/-- What becomes of a request for the field after all that `h` tells of. -/
structure Dispatches (plan : RootPlan) (registry : Registry) (h : History) (i : Invocation) : Prop where
  guards : (∃ after, Guard.Pass i.request plan.guards (i.response h) after) ↔
    ¬ ∃ left, Guard.Deny i.request plan.guards (i.response h) left
  /-- A request is recorded once if it is let through, and not otherwise. -/
  calls : (plan.serve registry h i).2.calls =
    h.calls ++ if plan.Authorizes h i then [plan.recordOf registry i] else []
  /-- If it is let through, the body gives the reply and leaves the response, from what the guards left. -/
  admitted : ∀ after, Guard.Pass i.request plan.guards (i.response h) after →
    plan.handler.Suits plan.resolver →
      let answer := plan.handler.body (plan.callFor registry h i) after
      plan.serve registry h i =
        (reply answer.1, ⟨h.write i answer.2, (plan.receive h.tally).2, h.calls ++ [plan.recordOf registry i]⟩)
  /-- A denied request gives null. -/
  denied : ∀ left, Guard.Deny i.request plan.guards (i.response h) left →
    plan.serve registry h i = (.ok none, { h with responses := h.write i left })
  /-- On an instance of another implementation there is an error. -/
  mismatched : ∀ after, Guard.Pass i.request plan.guards (i.response h) after →
    ¬ plan.handler.Suits plan.resolver →
      ∃ failure : Failure, failure.code = some "RESOLVER_MISMATCH" ∧
        plan.serve registry h i = (.error failure, { h with responses := h.write i after })
  /-- If it is not let through, any body would do the same: none is run. -/
  unread : ¬ plan.Authorizes h i → ∀ body, (plan.withBody body).serve registry h i = plan.serve registry h i

/-- **Authorized dispatch.** After any requests for any fields, the body of a field's method runs for the next one if
and only if all guards proceed and the instance is of the declared implementation; the record of calls is that of the
requests that were let through. Where a query is executed, its root fields are such requests, and nothing but these has
to do with the record. -/
theorem authorized_dispatch (plan : RootPlan) (registry : Registry) (start : History) :
    (∀ asked, (start.serveAll registry asked).calls =
      start.calls ++ (start.admitted registry asked).map fun a => a.1.recordOf registry a.2) ∧
    (∀ earlier i, plan.Dispatches registry (start.serveAll registry earlier) i) ∧
    ∀ e : Environment, e.registry = registry → (∀ supplied p, e.DispatchServes plan supplied p) ∧
      ∀ root selections p, ∃ asked, (∀ a ∈ asked, e.MayServe a) ∧
        (e.run root selections p).2.history = p.history.serveAll registry asked := by
  refine ⟨fun asked => History.calls_serveAll asked start, fun earlier i => ?_, ?_⟩
  · refine ⟨?_, calls_serve, fun after => serve_of_pass, fun left => serve_of_deny, fun after hpass hsuits => ?_,
      serve_withBody⟩
    · rw [← Guard.not_pass_iff, not_not]
    · exact ⟨(GraphError.resolverMismatch plan.className).toFailure, rfl, serve_of_mismatch hpass hsuits⟩
  · rintro e rfl
    exact ⟨e.dispatch_serves plan, fun root selections p => e.keeps_serves.run root selections p⟩

end RootPlan

end EntityGraph
