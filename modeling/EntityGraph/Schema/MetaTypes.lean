import EntityGraph.Schema.Signature
/-!
# The types by which a schema describes itself

Data only: the signatures of descriptions, and of the two fields of the query root that give them.
-/

namespace EntityGraph.MetaTypes

def field (name type : String) : FieldSignature := ⟨name, .ofText type, []⟩

/-- A field that leaves out what is deprecated unless it is told to include it. -/
def listing (name type : String) : FieldSignature :=
  ⟨name, .ofText type, [⟨"includeDeprecated", .ofText "Boolean!", some "false"⟩]⟩

def schemaType : List FieldSignature := [
  field "description" "String!", field "types" "[__Type!]!", field "queryType" "__Type!",
  field "mutationType" "__Type", field "subscriptionType" "__Type", field "directives" "[__Directive!]!"]

def typeType : List FieldSignature := [
  field "kind" "__TypeKind!", field "name" "String", field "description" "String", listing "fields" "[__Field!]",
  field "interfaces" "[__Type!]", field "possibleTypes" "[__Type!]", listing "enumValues" "[__EnumValue!]",
  listing "inputFields" "[__InputValue!]", field "ofType" "__Type", field "specifiedByURL" "String",
  field "isOneOf" "Boolean"]

def fieldType : List FieldSignature := [
  field "name" "String!", field "description" "String", listing "args" "[__InputValue!]!", field "type" "__Type!",
  field "isDeprecated" "Boolean!", field "deprecationReason" "String"]

def inputValueType : List FieldSignature := [
  field "name" "String!", field "description" "String", field "type" "__Type!", field "defaultValue" "String",
  field "isDeprecated" "Boolean!", field "deprecationReason" "String"]

def enumValueType : List FieldSignature := [
  field "name" "String!", field "description" "String", field "isDeprecated" "Boolean!",
  field "deprecationReason" "String"]

def directiveType : List FieldSignature := [
  field "name" "String!", field "description" "String", field "locations" "[__DirectiveLocation!]!",
  listing "args" "[__InputValue!]!", field "isRepeatable" "Boolean!"]

def kinds : List String := ["SCALAR", "OBJECT", "INTERFACE", "UNION", "ENUM", "INPUT_OBJECT", "LIST", "NON_NULL"]

/-- The places where a directive may stand. -/
def locations : List String := [
  "QUERY", "MUTATION", "SUBSCRIPTION", "FIELD", "FRAGMENT_DEFINITION", "FRAGMENT_SPREAD", "INLINE_FRAGMENT",
  "VARIABLE_DEFINITION", "SCHEMA", "SCALAR", "OBJECT", "FIELD_DEFINITION", "ARGUMENT_DEFINITION", "INTERFACE", "UNION",
  "ENUM", "ENUM_VALUE", "INPUT_OBJECT", "INPUT_FIELD_DEFINITION"]

/-- The name of the type that leads to all others. -/
def schemaTypeName : String := "__Schema"

def all : List (String × TypeSignature) := [
  (schemaTypeName, .object schemaType), ("__Type", .object typeType), ("__TypeKind", .enumeration kinds),
  ("__Field", .object fieldType), ("__InputValue", .object inputValueType),
  ("__EnumValue", .object enumValueType), ("__Directive", .object directiveType),
  ("__DirectiveLocation", .enumeration locations)]

/-- The fields that the query root has besides its own. -/
def rootFields : List FieldSignature := [
  field "__schema" "__Schema!", ⟨"__type", .ofText "__Type", [⟨"name", .ofText "String!", none⟩]⟩]

end EntityGraph.MetaTypes
