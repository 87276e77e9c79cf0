import EntityGraph.Schema.Signature
/-!
# The directives of every schema

Two directives are for requests. The others annotate the schema itself, and its text declares one of these only where
it speaks of it.
-/

namespace EntityGraph

structure Directive where
  name : String
  description : String
  arguments : List InputValue
  locations : List String
  /-- Whether the schema's text declares the directive in any case. -/
  always : Bool

namespace Directive

def conditionLocations : List String := ["FIELD", "FRAGMENT_SPREAD", "INLINE_FRAGMENT"]

def condition : List InputValue := [⟨"if", .ofText "Boolean!", none⟩]

/-- All directives, sorted by name. -/
def all : List Directive := [
  ⟨"deprecated", "Marks an element of a GraphQL schema as no longer supported.",
    [⟨"reason", .ofText "String", some "\"No longer supported\""⟩],
    ["FIELD_DEFINITION", "ARGUMENT_DEFINITION", "INPUT_FIELD_DEFINITION", "ENUM_VALUE"], false⟩,
  ⟨"include", "Directs the executor to include this field or fragment only when the `if` argument is true.",
    condition, conditionLocations, true⟩,
  ⟨"oneOf", "Indicates that an Input Object is a OneOf Input Object (and thus requires\n"
      ++ "                        exactly one of its field be provided)",
    [], ["INPUT_OBJECT"], false⟩,
  ⟨"skip", "Directs the executor to skip this field or fragment when the `if` argument is true.",
    condition, conditionLocations, true⟩,
  ⟨"specifiedBy", "Provides a scalar specification URL for specifying the behavior of custom scalar types.",
    [⟨"url", .ofText "String!", none⟩], ["SCALAR"], false⟩]

end Directive

end EntityGraph
