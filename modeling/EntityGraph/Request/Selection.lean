import EntityGraph.Request.Literal
/-!
# Selections

A request asks for fields of a root, and for fields of their values in turn. A leaf asks for a value as it is, a
branch for some fields of an object. Three measures bound a request; a field `__typename` counts in neither of the
last two, and what is below it does not either.
-/

namespace EntityGraph

/-- A field that is asked for, with the arguments supplied to it. -/
structure FieldRequest where
  name : String
  responseName : Option String := none
  arguments : List (String × Value) := []
deriving Inhabited

namespace FieldRequest

/-- The key of the field in the response. -/
def responseKey (f : FieldRequest) : String := f.responseName.getD f.name

def typenameField : String := "__typename"

def isTypename (f : FieldRequest) : Bool := f.name == typenameField

/-- The field as it is read from a text, which must have names for names and literals for arguments. -/
def read? (f : FieldRequest) : Option FieldRequest :=
  if Text.isGraphName f.name && f.responseName.all Text.isGraphName then
    (Value.fieldLiterals? f.arguments).map fun arguments => { f with arguments }
  else none

/-- The first argument that is supplied under a name. -/
def argument? (f : FieldRequest) (name : String) : Option Value := f.arguments.lookup name

/-- Whether no argument is supplied twice. -/
def hasDistinctArguments (f : FieldRequest) : Bool := decide (f.arguments.map Prod.fst).Nodup

/-- Whether two fields ask for the same field with the same arguments. -/
def agrees (f g : FieldRequest) : Bool :=
  f.name == g.name && f.arguments.length == g.arguments.length
    && f.arguments.all fun a => (g.argument? a.1).any a.2.identical

end FieldRequest

inductive Selection
  | leaf (field : FieldRequest)
  | branch (field : FieldRequest) (selections : List Selection)
deriving Inhabited

namespace Selection

def field : Selection → FieldRequest
  | .leaf f => f
  | .branch f _ => f

/-! ## Form -/

mutual

/-- A selection as it is read from a text; a selection set must not be empty. -/
def read? : Selection → Option Selection
  | .leaf f => f.read?.map .leaf
  | .branch f selections =>
    if selections.isEmpty then none
    else f.read?.bind fun f => (readAll? selections).map (.branch f)

def readAll? : List Selection → Option (List Selection)
  | [] => some []
  | s :: ss => s.read?.bind fun s => (readAll? ss).map (s :: ·)

end

/-- Whether the fields of a selection set that share a response key ask for the same thing. -/
def agreeing (selections : List Selection) : Bool :=
  selections.all fun s =>
    (selections.find? fun first => first.field.responseKey == s.field.responseKey).all fun first =>
      first.field.agrees s.field

/-! ## Measures -/

mutual

/-- How many selection sets stand below one another in this selection. -/
def nesting : Selection → Nat
  | .leaf _ => 0
  | .branch _ selections => nestingOfAll selections + 1

def nestingOfAll : List Selection → Nat
  | [] => 0
  | s :: ss => max s.nesting (nestingOfAll ss)

end

/-- The deepest nesting of selection sets, below the first, that can be read. -/
def nestingLimit : Nat := 32

/-- A request as it is read, if it can be. -/
def readRequest? (selections : List Selection) : Option (List Selection) :=
  if selections.isEmpty || nestingLimit < nestingOfAll selections then none else readAll? selections

mutual

/-- The number of fields. -/
def complexity : Selection → Nat
  | .leaf f => if f.isTypename then 0 else 1
  | .branch f selections => if f.isTypename then 0 else 1 + complexityOfAll selections

def complexityOfAll : List Selection → Nat
  | [] => 0
  | s :: ss => s.complexity + complexityOfAll ss

end

mutual

/-- The length of the longest chain of fields within fields. -/
def depth : Selection → Nat
  | .leaf f => if f.isTypename then 0 else 1
  | .branch f selections => if f.isTypename then 0 else 1 + depthOfAll selections

def depthOfAll : List Selection → Nat
  | [] => 0
  | s :: ss => max s.depth (depthOfAll ss)

end

end Selection

end EntityGraph
