import EntityGraph.Request.Selection
import EntityGraph.Schema.Builder
/-!
# Which requests a schema accepts

A request that could be read is refused, whole and before anything runs, for the first of these reasons: there is no
root for it, it has too many fields, its fields stand too deep, or some part of it does not fit the schema.

Whether it fits is a matter of the catalog alone. Arguments are checked but not changed: an item may stand for a list
of itself, and null stands for any value unless the type forbids it. What stands in and below a field `__typename` is
not looked at.

Below a field of which the catalog does not have the type, fields may have any name. The first of them may be supplied
with arguments by the names of those of the last field before it that is known, the others with any.
-/

namespace EntityGraph

inductive Rejection
  | invalid
  | complexity
  | depth
deriving DecidableEq

def Rejection.name : Rejection → String
  | .invalid => "invalid"
  | .complexity => "complexity"
  | .depth => "depth"

/-! ## Argument values -/

def Scalar.accepts (s : Scalar) (v : Value) : Bool :=
  match s, v with
  | .string, .text _ => true
  | .boolean, .boolean _ => true
  | .float, .number _ => true
  | .int, v => v.asInt64?.isSome
  | .id, .text _ => true
  | .id, v => v.asInt64?.isSome
  | _, _ => false

/-- Whether a value that is neither null nor an object may be supplied. Anything passes for an input object. -/
def TypeSignature.accepts : TypeSignature → Value → Bool
  | .scalar s, v => s.accepts v
  | .enumeration values, v => v.asText?.any values.contains
  | .object _, _ => true
  | .input _, _ => true

namespace Catalog

/-- Whether a value other than null may be supplied for a type, where its parts do not matter. -/
def acceptsWhole (c : Catalog) (t : TypeShape) (v : Value) : Bool := (c.type? t.concrete).any (·.accepts v)

mutual

/-- Whether a value may be supplied where a type is expected. -/
def accepts (c : Catalog) (t : TypeShape) : Value → Bool
  | .null => !t.isNonNull
  | .list items =>
    match t.item? with
    | some item => acceptsItems c item items
    | none => c.acceptsWhole t (.list items)
  | .object fields =>
    match c.type? t.concrete with
    | some (.input declared) =>
      declared.all (fun d => !d.isRequired || Entries.contains fields d.name) && acceptsFields c declared fields
    | _ => c.acceptsWhole t (.object fields)
  | v => c.acceptsWhole t v

def acceptsItems (c : Catalog) (item : TypeShape) : List Value → Bool
  | [] => true
  | v :: vs => accepts c item v && acceptsItems c item vs

/-- Whether every field is declared and its value accepted. -/
def acceptsFields (c : Catalog) (declared : List InputValue) : List (String × Value) → Bool
  | [] => true
  | (key, v) :: fields =>
    (match declared.find? (·.name == key) with
      | some d => accepts c d.type v
      | none => false)
      && acceptsFields c declared fields

end

/-- Whether the supplied arguments are declared, of the declared types, and all that is required. -/
def acceptsArguments (c : Catalog) (declared : List InputValue) (supplied : List (String × Value)) : Bool :=
  declared.all (fun d => !d.isRequired || Entries.contains supplied d.name) && acceptsFields c declared supplied

/-! ## Selections -/

/-- The place of fields within a request. -/
structure Place where
  /-- The type of which they are fields, if the catalog has it. -/
  parent : Option TypeSignature
  /-- The arguments of which the first field here may be supplied with some if there is no parent; any if missing. -/
  arguments : Option (List InputValue) := none

/-- The place below a field. -/
def placeBelow (c : Catalog) (place : Place) (f : FieldRequest) : Place :=
  match place.parent with
  | none => place
  | some t =>
    let field := t.field? f.name
    ⟨field.bind fun field => c.type? field.type.concrete, field.map (·.arguments)⟩

/-- The place after a field. What stands in a field `__typename` is passed by. -/
def Place.next (place : Place) (f : FieldRequest) : Place :=
  if f.isTypename then place else { place with arguments := none }

/-- Whether a field may be asked for in this way, with a choice of fields below it or without. -/
def fits (c : Catalog) (place : Place) (f : FieldRequest) (choosing : Bool) : Bool :=
  match place.parent with
  | none => place.arguments.all fun declared => f.arguments.all fun a => declared.any (·.name == a.1)
  | some t =>
    match t.field? f.name with
    | none => false
    | some field =>
      c.acceptsArguments field.arguments f.arguments
        && (c.type? field.type.concrete).all fun below => below.isLeaf != choosing

mutual

/-- Whether a selection fits its place. -/
def validSelection (c : Catalog) (place : Place) : Selection → Bool
  | .leaf f => f.isTypename || (f.hasDistinctArguments && c.fits place f false)
  | .branch f selections =>
    f.isTypename ||
      (f.hasDistinctArguments && c.fits place f true && Selection.agreeing selections
        && validSelections c (c.placeBelow place f) selections)

def validSelections (c : Catalog) (place : Place) : List Selection → Bool
  | [] => true
  | x :: xs => validSelection c place x && validSelections c (place.next x.field) xs

end

end Catalog

/-! ## Requests -/

namespace Schema

def hasRoot (s : Schema) : RootKind → Bool
  | .query => true
  | .mutation => s.hasMutation

/-- Whether all parts of a request fit the schema. -/
def isValid (s : Schema) (root : RootKind) (selections : List Selection) : Bool :=
  let c := s.catalog
  Selection.agreeing selections && c.validSelections ⟨c.type? root.typeName, none⟩ selections

/-- Why a request is refused, if it is. -/
def rejection? (s : Schema) (root : RootKind) (selections : List Selection) : Option Rejection :=
  if !s.hasRoot root then some .invalid
  else if s.maxComplexity < Selection.complexityOfAll selections then some .complexity
  else if s.maxDepth < Selection.depthOfAll selections then some .depth
  else if s.isValid root selections then none
  else some .invalid

end Schema

end EntityGraph
