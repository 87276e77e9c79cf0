import EntityGraph.Context
/-!
# Guards

A guard sees the request and the response so far, may write to the response, and either proceeds or does not. The
guards of a method run in order; the first that does not proceed denies the call, and those after it are not run.
-/

namespace EntityGraph

structure Guard where
  name : String
  /-- Whether the guard proceeds, and the response as it leaves it. -/
  check : Request → Response → Bool × Response

inductive Verdict
  | allowed
  /-- Denied by the guard at this position. -/
  | denied (position : Nat)
deriving DecidableEq

def Verdict.isAllowed : Verdict → Bool
  | .allowed => true
  | .denied _ => false

/-- What became of a run: the verdict, the response, and the names of the guards that ran. -/
structure GuardRun where
  verdict : Verdict
  response : Response
  ran : List String

namespace Guard

/-- Runs guards that stand at `position` and after. -/
def runFrom (request : Request) : Nat → List Guard → Response → GuardRun
  | _, [], response => ⟨.allowed, response, []⟩
  | position, g :: gs, response =>
    match g.check request response with
    | (true, response) =>
      let rest := runFrom request (position + 1) gs response
      { rest with ran := g.name :: rest.ran }
    | (false, response) => ⟨.denied position, response, [g.name]⟩

def run (guards : List Guard) (request : Request) (response : Response) : GuardRun :=
  runFrom request 0 guards response

end Guard

end EntityGraph
