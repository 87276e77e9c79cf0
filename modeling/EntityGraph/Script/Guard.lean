import EntityGraph.Guard
/-!
# Guards described by data

A guard whose decision is a condition on the request and the response, and which writes one of two effects to the
response. The condition is read before anything is written.
-/

namespace EntityGraph

/-- What a script writes to a response: a status, if it names one, then headers in order. -/
structure Effect where
  status : Option Nat := none
  headers : List (String × String) := []

def Effect.apply (e : Effect) (r : Response) : Response :=
  let r := match e.status with
    | some n => r.setStatus n
    | none => r
  e.headers.foldl (fun r h => r.setHeader h.1 h.2) r

inductive Condition
  | always (b : Bool)
  | requestHeader (name : String)
  | requestHeaderEquals (name value : String)
  | requestId (id : String)
  | status (n : Nat)
  | responseHeader (name : String)

def Condition.holds (request : Request) (response : Response) : Condition → Bool
  | .always b => b
  | .requestHeader name => (request.header? name).isSome
  | .requestHeaderEquals name value => request.header? name == some value
  | .requestId id => request.id == some id
  | .status n => response.status == some n
  | .responseHeader name => (response.header? name).isSome

structure GuardScript where
  name : String
  allow : Condition
  onAllow : Effect
  onDeny : Effect

def GuardScript.toGuard (s : GuardScript) : Guard where
  name := s.name
  check request response :=
    if s.allow.holds request response then (true, s.onAllow.apply response)
    else (false, s.onDeny.apply response)

end EntityGraph
