import EntityGraph.Schema.Directive
import EntityGraph.Schema.Refusal
/-!
# The schema in the definition language

Object and input types sorted by name, directives, and the roots. Types with a reserved name are not shown. A directive
that annotates the schema is declared only if the text of the types has its name in it, be it within another name.
-/

namespace EntityGraph

namespace Sdl

def argument (a : String × TypeRef) : String := a.1 ++ ": " ++ a.2.toText

def parenthesized (items : List String) : String :=
  if items.isEmpty then "" else "(" ++ ", ".intercalate items ++ ")"

def outputField (f : OutputField) : String :=
  "\t" ++ f.name ++ parenthesized (f.arguments.entries.map argument) ++ ": " ++ f.type.toText ++ "\n"

def inputField (f : InputField) : String := "\t" ++ f.name ++ ": " ++ f.type.toText ++ "\n"

def block (keyword name : String) (lines : List String) : String :=
  keyword ++ " " ++ name ++ " \x7b\n" ++ String.join lines ++ "\x7d\n\n"

def schemaType : SchemaType → String
  | .output t => block "type" t.name (t.fields.map outputField)
  | .input t => block "input" t.name (t.fields.map inputField)

/-! ## Directives -/

def inputValue (v : InputValue) : String :=
  v.name ++ ": " ++ v.type.toText ++ (match v.default with | some text => " = " ++ text | none => "")

def directive (d : Directive) : String :=
  "\"\"\"\n" ++ d.description ++ "\n\"\"\"\ndirective @" ++ d.name ++ parenthesized (d.arguments.map inputValue)
    ++ " on " ++ " | ".intercalate d.locations ++ "\n"

/-- Whether a text stands somewhere within another. -/
def occurs (part : List Char) : List Char → Bool
  | [] => part.isEmpty
  | c :: cs => part.isPrefixOf (c :: cs) || occurs part cs

def isDeclared (types : String) (d : Directive) : Bool := d.always || occurs ("@" ++ d.name).toList types.toList

/-! ## Whole schemas -/

def roots (hasMutation : Bool) : String :=
  "schema \x7b\n\tquery: Query\n" ++ (if hasMutation then "\tmutation: Mutation\n" else "") ++ "\x7d\n"

def types (table : TypeTable) : String :=
  let shown := table.values.filter fun t => !isReserved t.name
  String.join ((shown.mergeSort fun s t => !decide (t.name < s.name)).map schemaType)

def render (table : TypeTable) (hasMutation : Bool) : String :=
  let types := types table
  types ++ String.join ((Directive.all.filter (isDeclared types)).map directive) ++ roots hasMutation

end Sdl

end EntityGraph
