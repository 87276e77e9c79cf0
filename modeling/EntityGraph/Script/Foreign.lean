import EntityGraph.Relation
/-!
# Foreign resolvers described by data

Rules in order, of which the first that matches the stub decides: there is no such instance, or it is the stub with
some fields assigned. A stub that no rule matches is given back as it is, or is unknown.
-/

namespace EntityGraph

structure ForeignRule where
  /-- Without a class the rule is for every class. -/
  className : Option String := none
  conditions : List (String × Value) := []
  /-- Whether the rule says that there is no instance. -/
  unknown : Bool := false
  assignments : List (String × Value) := []

namespace ForeignRule

def isMatch (rule : ForeignRule) (stub : Instance) : Bool :=
  (match rule.className with | some c => c == stub.className | none => true)
    && rule.conditions.all fun c => match stub.get? c.1 with | some v => v.same c.2 | none => false

def apply (rule : ForeignRule) (stub : Instance) : Option Instance :=
  if rule.unknown then none
  else some (rule.assignments.foldl (fun i a => i.set a.1 a.2) stub)

end ForeignRule

structure ForeignScript where
  rules : List ForeignRule := []
  /-- Whether a stub that no rule matches is given back. -/
  echo : Bool := false

def ForeignScript.resolve (s : ForeignScript) : ForeignResolver := fun stub =>
  match s.rules.find? (·.isMatch stub) with
  | some rule => rule.apply stub
  | none => if s.echo then some stub else none

end EntityGraph
