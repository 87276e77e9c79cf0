import EntityGraph.ForeignKey
/-!
# Filling instances from requests

A value in a request carries wire names; `fill` turns it into an instance, which carries field names. Primary keys
and columns are copied as they stand, and only where the value has them. Every foreign key is set: to the instance
filled from a nested object, or else to a stub made from a flat id, or else to null.

The recursion is on the value, so a model may refer to itself.
-/

namespace EntityGraph

namespace Registry

/-- What one field of a model contributes to an instance. `nested` fills the object under a wire name as an instance
of a class, if there is one that is not null. -/
def fillField (r : Registry) (raw : Value) (nested : String → String → Option (Logged (Option Instance)))
    (i : Instance) (f : Field) : Logged Instance :=
  match f.kind with
  | .foreignKey target idColumn => do
    let related ← match nested f.wireName target with
      | some filled => filled
      | none =>
        match (idColumn.bind (r.flatIdKey? target)).filter fun key => (raw.get? key).isSome with
        | some key => r.resolveForeignKey target raw f.wireName (some key)
        | none => pure none
    pure (i.set f.name (match related with | some j => j.toValue | none => .null))
  | _ => pure (match raw.get? f.wireName with | some v => i.set f.name v | none => i)

def fillFields (r : Registry) (raw : Value) (nested : String → String → Option (Logged (Option Instance))) :
    Instance → List Field → Logged Instance
  | i, [] => pure i
  | i, f :: fs => do
    let i ← fillField r raw nested i f
    fillFields r raw nested i fs

/-- Fills an instance of a class that may have no model, and then has no fields. -/
def fillModel (r : Registry) (raw : Value) (nested : String → String → Option (Logged (Option Instance)))
    (className : String) : Logged (Option Instance) := do
  let i ← match r.model? className with
    | some m => fillFields r raw nested (Instance.empty className) m.fields
    | none => pure (Instance.empty className)
  pure (some i)

mutual

def fillValue (r : Registry) : Value → String → Logged (Option Instance)
  | .null, _ => pure none
  | .object fields, className => fillModel r (.object fields) (fillEntry r fields) className
  | raw, className => fillModel r raw (fun _ _ => none) className

/-- The entry under a key, unless it is null, filled as an instance of a class. -/
def fillEntry (r : Registry) : List (String × Value) → String → String → Option (Logged (Option Instance))
  | [], _, _ => none
  | (k, v) :: fields, key, className =>
    if k = key then (if v.isNull then none else some (fillValue r v className))
    else fillEntry r fields key className

end

/-- Nothing is filled without a value or without a class. -/
def fill (r : Registry) (raw : Option Value) (className : Option String) : Logged (Option Instance) :=
  match raw, className with
  | some raw, some className => fillValue r raw className
  | _, _ => pure none

end Registry

end EntityGraph
