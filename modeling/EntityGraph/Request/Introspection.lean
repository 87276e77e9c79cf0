import EntityGraph.Request.Join
import EntityGraph.Request.Selection
import EntityGraph.Schema.Builder
/-!
# Questions about the schema itself

The query root answers `__schema` and `__type` when introspection is on, and knows of the types that the schema shows
only. What a description is about is its subject; a field of a description gives a plain value, another subject or
several, of which again fields are selected. Nothing is deprecated, and only directives have a text to describe them.
-/

namespace EntityGraph

namespace Introspection

/-- What is described. -/
inductive Subject
  | schema
  | type (shape : TypeShape)
  | field (field : FieldSignature)
  | inputValue (value : InputValue)
  | enumValue (name : String)
  | directive (directive : Directive)

/-- The name of the type of descriptions of a subject. -/
def Subject.typeName : Subject → String
  | .schema => "__Schema"
  | .type _ => "__Type"
  | .field _ => "__Field"
  | .inputValue _ => "__InputValue"
  | .enumValue _ => "__EnumValue"
  | .directive _ => "__Directive"

inductive Answer
  | plain (v : Value)
  | one (subject : Subject)
  | several (subjects : List Subject)

namespace Answer

def null : Answer := .plain .null

def text (s : String) : Answer := .plain (.text s)

def no : Answer := .plain (.boolean false)

def types (names : List String) : Answer := .several (names.map fun name => .type (.named name))

end Answer

/-! ## Descriptions -/

def typeKind : TypeSignature → String
  | .scalar _ => "SCALAR"
  | .enumeration _ => "ENUM"
  | .object _ => "OBJECT"
  | .input _ => "INPUT_OBJECT"

def describeSchema (s : Schema) : String → Answer
  | "types" => .types (s.catalog.shown s.rootNames)
  | "queryType" => .one (.type (.named RootKind.query.typeName))
  | "mutationType" => if s.hasMutation then .one (.type (.named RootKind.mutation.typeName)) else .null
  | "directives" => .several (Directive.all.map .directive)
  | _ => .null

def describeNamed (name : String) (t : TypeSignature) : String → Answer
  | "kind" => .plain (.enumeration (typeKind t))
  | "name" => .text name
  | "fields" =>
    match t with
    | .object fields => .several ((fields.filter fun f => !isReserved f.name).map .field)
    | _ => .null
  | "interfaces" =>
    match t with
    | .object _ => .several []
    | _ => .null
  | "enumValues" =>
    match t with
    | .enumeration values => .several (values.map .enumValue)
    | _ => .null
  | "inputFields" =>
    match t with
    | .input fields => .several (fields.map .inputValue)
    | _ => .null
  | "isOneOf" =>
    match t with
    | .input _ => .no
    | _ => .null
  | _ => .null

def describeType (c : Catalog) : TypeShape → String → Answer
  | .named name, key => (c.type? name).elim .null fun t => describeNamed name t key
  | .list _, "kind" => .plain (.enumeration "LIST")
  | .list t, "ofType" => .one (.type t)
  | .nonNull _, "kind" => .plain (.enumeration "NON_NULL")
  | .nonNull t, "ofType" => .one (.type t)
  | _, _ => .null

def describeField (f : FieldSignature) : String → Answer
  | "name" => .text f.name
  | "args" => .several (f.arguments.map .inputValue)
  | "type" => .one (.type f.type)
  | "isDeprecated" => .no
  | _ => .null

def describeInputValue (v : InputValue) : String → Answer
  | "name" => .text v.name
  | "type" => .one (.type v.type)
  | "defaultValue" => .plain (v.default.elim .null .text)
  | "isDeprecated" => .no
  | _ => .null

def describeEnumValue (name : String) : String → Answer
  | "name" => .text name
  | "isDeprecated" => .no
  | _ => .null

def describeDirective (d : Directive) : String → Answer
  | "name" => .text d.name
  | "description" => .text d.description
  | "locations" => .plain (.list (d.locations.map .enumeration))
  | "args" => .several (d.arguments.map .inputValue)
  | "isRepeatable" => .no
  | _ => .null

/-- The answer of a description to one of its fields; it is null for a field that descriptions do not have. -/
def answer (s : Schema) (subject : Subject) (field : String) : Answer :=
  if field == FieldRequest.typenameField then .text subject.typeName
  else match subject with
    | .schema => describeSchema s field
    | .type shape => describeType s.catalog shape field
    | .field f => describeField f field
    | .inputValue v => describeInputValue v field
    | .enumValue name => describeEnumValue name field
    | .directive d => describeDirective d field

/-! ## Selection -/

/-- The value of an answer, where `select` makes the description of a subject. -/
def Answer.value (select : Subject → Value) : Answer → Value
  | .plain v => v
  | .one subject => select subject
  | .several subjects => .list (subjects.map select)

mutual

/-- The value of a selected field of a description. -/
def fieldOf (s : Schema) (subject : Subject) : Selection → Value
  | .leaf f => (answer s subject f.name).value fun _ => .object []
  | .branch f selections =>
    (answer s subject f.name).value fun inner => joinedObject (fieldsOf s inner selections)

def fieldsOf (s : Schema) (subject : Subject) : List Selection → List (String × Value)
  | [] => []
  | x :: xs => (x.field.responseKey, fieldOf s subject x) :: fieldsOf s subject xs

end

/-- The description of a shown type; there is none of any other. -/
def typeNamed (s : Schema) : Option Value → Answer
  | some (.text name) =>
    if (s.catalog.shown s.rootNames).contains name then .one (.type (.named name)) else .null
  | _ => .null

/-- The answer to a field of the type of this name that asks about the schema. -/
def rootAnswer? (s : Schema) (type : String) (f : FieldRequest) : Option Answer :=
  if s.introspection && type == RootKind.query.typeName then
    match f.name with
    | "__schema" => some (.one .schema)
    | "__type" => some (typeNamed s (f.argument? "name"))
    | _ => none
  else none

/-- The value of a question about the schema. -/
def value (s : Schema) (a : Answer) (selections : List Selection) : Value :=
  a.value fun subject => joinedObject (fieldsOf s subject selections)

end Introspection

end EntityGraph
