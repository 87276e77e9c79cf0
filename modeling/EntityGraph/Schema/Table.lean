import EntityGraph.Diagnostic
import EntityGraph.Relation
import EntityGraph.Schema.Roots
import EntityGraph.Types.Compile
/-!
# The table of schema types

Compiled types and roots become the object and input types of a schema. They are entered by name, the compiled types
in the order of their handles, then the query root, then the mutation root if it has fields; a second type of one
name takes the place of the first. A type must have a field, so one without any gets a placeholder.
-/

namespace EntityGraph

/-- Where the value of an output field comes from. -/
inductive FieldSource
  | scalar (field : CompiledField)
  | relation (relation : Relation)
  | root (plan : RootPlan)
  /-- Always null. -/
  | placeholder

structure OutputField where
  name : String
  type : TypeRef
  arguments : Dict TypeRef
  source : FieldSource

structure OutputType where
  name : String
  fields : List OutputField

structure InputField where
  name : String
  type : TypeRef

structure InputType where
  name : String
  fields : List InputField

inductive SchemaType
  | output (t : OutputType)
  | input (t : InputType)

namespace SchemaType

def name : SchemaType → String
  | .output t => t.name
  | .input t => t.name

def output? : SchemaType → Option OutputType
  | .output t => some t
  | .input _ => none

def input? : SchemaType → Option InputType
  | .output _ => none
  | .input t => some t

def fieldNames : SchemaType → List String
  | .output t => t.fields.map (·.name)
  | .input t => t.fields.map (·.name)

/-- The first field name that an earlier field has already. -/
def firstRepeat? : List String → Option String
  | names => (List.range names.length).findSome? fun n =>
      names[n]?.filter fun name => (names.take n).contains name

def repeatedField? (t : SchemaType) : Option String := firstRepeat? t.fieldNames

end SchemaType

/-! ## From compiled types -/

def placeholderName : String := "_placeholder"

namespace OutputField

def placeholder : OutputField := ⟨placeholderName, .ofScalar .string, .empty, .placeholder⟩

def ofRoot (f : RootField) : OutputField := ⟨f.name, f.returns, Dict.ofList f.arguments, .root f.plan⟩

end OutputField

namespace TypeStore

/-- A field of an output type. A relation to a type that was never finished is left out and noted. -/
def outputField? (s : TypeStore) (t : CompiledType) (f : CompiledField) : Logged (Option OutputField) :=
  match f.type with
  | .scalar scalar => pure (some ⟨f.name, .ofScalar scalar, .empty, .scalar f⟩)
  | .relation handle relation =>
    match s.get? handle with
    | some target => pure (some ⟨f.name, .named target.name, .empty, .relation relation⟩)
    | none => .noting none (.unfinishedTarget t.name f.name)

def outputType (s : TypeStore) (t : CompiledType) : Logged OutputType := do
  let fields ← Logged.each (s.outputField? t) t.fields
  pure ⟨t.name, if t.fields.isEmpty then [.placeholder] else fields.filterMap id⟩

def inputField? (s : TypeStore) (f : CompiledField) : Option InputField :=
  match f.type with
  | .scalar scalar => some ⟨f.name, .ofScalar scalar⟩
  | .relation handle _ => (s.get? handle).map fun target => ⟨f.name, .named target.name⟩

def inputType (s : TypeStore) (t : CompiledType) : InputType :=
  ⟨t.name, if t.fields.isEmpty then [⟨placeholderName, .ofScalar .string⟩] else t.fields.filterMap s.inputField?⟩

def schemaType (s : TypeStore) (t : CompiledType) : Logged SchemaType :=
  match t.flavor with
  | .output => do
    let type ← s.outputType t
    pure (.output type)
  | .input => pure (.input (s.inputType t))

def schemaTypes (s : TypeStore) : Logged (List SchemaType) := Logged.each s.schemaType s.types

end TypeStore

/-! ## From roots -/

def Roots.outputType (r : Roots) (kind : RootKind) : OutputType :=
  let fields := (r.fields kind).values.map OutputField.ofRoot
  ⟨kind.typeName, if fields.isEmpty then [.placeholder] else fields⟩

def Roots.schemaTypes (r : Roots) : List SchemaType :=
  .output (r.outputType .query) :: (if r.hasMutation then [.output (r.outputType .mutation)] else [])

/-! ## The table -/

abbrev TypeTable := Dict SchemaType

namespace TypeTable

def ofTypes (types : List SchemaType) : TypeTable := Dict.ofList (types.map fun t => (t.name, t))

def type? (table : TypeTable) (name : String) : Option SchemaType := Dict.get? table name

def output? (table : TypeTable) (name : String) : Option OutputType := (table.type? name).bind SchemaType.output?

def input? (table : TypeTable) (name : String) : Option InputType := (table.type? name).bind SchemaType.input?

def outputs (table : TypeTable) : List OutputType := table.values.filterMap SchemaType.output?

def inputs (table : TypeTable) : List InputType := table.values.filterMap SchemaType.input?

end TypeTable

end EntityGraph
