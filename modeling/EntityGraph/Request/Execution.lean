import EntityGraph.Request.Introspection
import EntityGraph.Request.Validity
/-!
# Running requests

The fields of a request run in the order in which they are selected, each with all that is below it before the next.
A field without a value is null. A value of an object type is completed by running the selected fields with it as
their parent, whatever it is; a list type asks for a list and completes each item; a scalar is passed on unchecked, and
what is selected below it is of no account. A field that fails is left out of its object and reported, and one that the
type does not have is left out. An object without any field is null.
-/

namespace EntityGraph

/-- A step from a response down to one of its values. -/
inductive PathStep
  | key (responseKey : String)
  | index (position : Nat)
deriving DecidableEq

/-- A failure with the way to the value that it is about. Failures of handlers carry no path. -/
structure FieldError where
  message : String
  path : List PathStep
  code : Option String

/-- What a request works with. -/
structure Environment where
  registry : Registry
  schema : Schema
  foreign : ForeignResolver
  /-- The attached request; without one each dispatch gets an empty request and a response of its own. -/
  request : Option Request

/-- What a request has done so far. -/
structure Progress where
  response : Response := {}
  tally : Tally := []
  errors : List FieldError := []
  calls : List CallRecord := []
  guards : List String := []
  stubs : List Instance := []
  log : List Diagnostic := []

namespace Progress

def fail (p : Progress) (e : FieldError) : Progress := { p with errors := p.errors ++ [e] }

def note (p : Progress) (ds : List Diagnostic) : Progress := { p with log := p.log ++ ds }

def record (p : Progress) (d : Dispatch) (response : Response) : Progress :=
  { p with
    response, tally := d.tally
    guards := p.guards ++ d.guards
    calls := p.calls ++ d.calls }

end Progress

/-! ## Fields -/

/-- The object of a list of completed fields, without those that were left out. -/
def objectOf (fields : List (Option (String × Value))) : Value :=
  match fields.filterMap id with
  | [] => .null
  | done => joinedObject done

namespace Environment

/-- Dispatches a root field. A failure is reported and leaves nothing, which is not the same as null. -/
def dispatch (e : Environment) (plan : RootPlan) (supplied : List (String × Value)) (p : Progress) :
    Option (Option Value) × Progress :=
  let outcome := plan.dispatch e.registry (Dict.ofList supplied) (e.request.getD {})
    (if e.request.isSome then p.response else {}) p.tally
  let p := (p.record outcome.value (if e.request.isSome then outcome.value.response else p.response)).note outcome.log
  match outcome.value.result with
  | .ok v => (some v, p)
  | .error f => (none, p.fail ⟨f.message, [], f.code⟩)

def resolveRelation (e : Environment) (relation : Relation) (parent : Value) (p : Progress) :
    Option Value × Progress :=
  let outcome := relation.resolve e.registry e.foreign parent
  (outcome.value.value, { p.note outcome.log with stubs := p.stubs ++ outcome.value.stub.toList })

/-- The value of a field of `parent`; the outer option is missing if the field failed. -/
def fieldValue (e : Environment) (field : OutputField) (parent : Value) (supplied : List (String × Value))
    (p : Progress) : Option (Option Value) × Progress :=
  match field.source with
  | .scalar f => (some (f.read? parent), p)
  | .relation relation =>
    let (v, p) := e.resolveRelation relation parent p
    (some v, p)
  | .root plan => e.dispatch plan supplied p
  | .placeholder => (some none, p)

/-- How a value with a path is completed. -/
abbrev Completion := List PathStep → Value → Progress → Value × Progress

/-- Completes the items of a list, from the one at `position` on, one after the other. -/
def completeItems (complete : Completion) (path : List PathStep) :
    Nat → List Value → Progress → List Value × Progress
  | _, [], p => ([], p)
  | position, v :: vs, p =>
    let (w, p) := complete (path ++ [.index position]) v p
    let (ws, p) := completeItems complete path (position + 1) vs p
    (w :: ws, p)

def notAList (path : List PathStep) : FieldError := ⟨"internal: expects an array", path, none⟩

/-- Completes a field's value by its type; nothing is left if a list was promised and is not there. -/
def completeValue (complete : Completion) (path : List PathStep) (type : TypeRef) :
    Option Value → Progress → Option Value × Progress
  | none, p => (some .null, p)
  | some v, p =>
    if type.list then
      match v with
      | .list items =>
        let (items, p) := completeItems complete path 0 items p
        (some (.list items), p)
      | _ => (none, p.fail (notAList path))
    else
      let (v, p) := complete path v p
      (some v, p)

/-- Runs a field of the parent at `path` and completes what it gives. -/
def runField (e : Environment) (complete : Completion) (field : OutputField) (f : FieldRequest)
    (path : List PathStep) (parent : Value) (p : Progress) : Option (String × Value) × Progress :=
  match e.fieldValue field parent f.arguments p with
  | (none, p) => (none, p)
  | (some v, p) =>
    let (v, p) := completeValue complete (path ++ [.key f.responseKey]) field.type v p
    (v.map fun v => (f.responseKey, v), p)

/-- Runs a request for a field on the parent at `path`, of the object type `type`. Where the field has an object type,
`below` completes its values. -/
def runRequest (e : Environment) (type : String) (path : List PathStep) (parent : Value) (f : FieldRequest)
    (selections : List Selection) (below : String → Completion) (p : Progress) : Option (String × Value) × Progress :=
  if f.isTypename then (some (f.responseKey, .text type), p)
  else match Introspection.rootAnswer? e.schema type f with
    | some answer => (some (f.responseKey, Introspection.value e.schema answer selections), p)
    | none =>
      match (e.schema.table.output? type).bind (·.fields.find? (·.name == f.name)) with
      | none => (none, p)
      | some field =>
        match e.schema.table.output? field.type.name with
        | some t => e.runField (below t.name) field f path parent p
        | none => e.runField (fun _ v p => (v, p)) field f path parent p

mutual

/-- Runs one selection on the parent at `path`, of the object type `type`. -/
def runSelection (e : Environment) (type : String) (path : List PathStep) (parent : Value) :
    Selection → Progress → Option (String × Value) × Progress
  | .leaf f, p => e.runRequest type path parent f [] (fun _ _ _ p => (objectOf [], p)) p
  | .branch f selections, p =>
    e.runRequest type path parent f selections
      (fun type path v p =>
        let (fields, p) := runSelections e type path v selections p
        (objectOf fields, p)) p

def runSelections (e : Environment) (type : String) (path : List PathStep) (parent : Value) :
    List Selection → Progress → List (Option (String × Value)) × Progress
  | [], p => ([], p)
  | s :: ss, p =>
    let (field, p) := runSelection e type path parent s p
    let (fields, p) := runSelections e type path parent ss p
    (field :: fields, p)

end

/-- Runs an accepted request on one of the roots. -/
def run (e : Environment) (root : RootKind) (selections : List Selection) (p : Progress) : Value × Progress :=
  let (fields, p) := e.runSelections root.typeName [] .null selections p
  (objectOf fields, p)

/-- Reads a request and runs it, or says why it is refused. -/
def execute (e : Environment) (root : RootKind) (selections : List Selection) (tally : Tally) :
    Except Rejection (Value × Progress) :=
  match Selection.readRequest? selections with
  | none => .error .invalid
  | some selections =>
    match e.schema.rejection? root selections with
    | some rejection => .error rejection
    | none => .ok (e.run root selections { tally })

end Environment

end EntityGraph
