import EntityGraph.Dict
import EntityGraph.Registry.Method
import EntityGraph.Registry.Model
/-!
# The registry

All that models and resolver classes have declared. Nothing is checked here: a foreign key may name a class that is
declared later or never, and faults show only when types are compiled or a schema is built. Classes, fields and
methods are listed in the order in which they were first mentioned.
-/

namespace EntityGraph

structure ResolverClass where
  className : String
  methods : Dict Method

structure Registry where
  models : Dict Model := .empty
  resolvers : Dict ResolverClass := .empty

namespace Registry

def empty : Registry := {}

/-! ## Declarations -/

/-- Changes the model of a class, which comes into being when it is first mentioned. -/
def updateModel (r : Registry) (className : String) (f : Model → Model) : Registry :=
  { r with models := r.models.update className (Model.empty className) f }

def updateMethod (r : Registry) (className method : String) (f : Method → Method) : Registry :=
  { r with resolvers := r.resolvers.update className ⟨className, .empty⟩ fun c =>
      { c with methods := c.methods.update method { name := method } f } }

/-- Makes the class an entity, called `name` or else like the class. -/
def declareEntity (r : Registry) (className : String) (name : Option String) : Registry :=
  r.updateModel className (·.declareEntity name)

/-- Declares a field, which is called `wireName` outside or else like the field. A second declaration of a field
replaces the first where it stands. -/
def declareField (r : Registry) (className field : String) (kind : FieldKind) (wireName : Option String) : Registry :=
  r.updateModel className (·.declareField ⟨field, wireName.getD field, kind⟩)

def declareMethod (r : Registry) (className method : String) (kind : RootKind) (exposedAs : Option String)
    (returns : Option TypeRef) : Registry :=
  r.updateMethod className method (·.declareKind kind exposedAs returns)

def declareGuard (r : Registry) (className method : String) (g : Guard) : Registry :=
  r.updateMethod className method (·.addGuard g)

def declareOverride (r : Registry) (className method : String) (position : Nat) (type : TypeRef) : Registry :=
  r.updateMethod className method (·.addOverride ⟨position, type⟩)

def declareParameter (r : Registry) (className method name : String) (type : TypeRef) : Registry :=
  r.updateMethod className method (·.addParameter ⟨name, type⟩)

def declareHandler (r : Registry) (className method : String) (h : Handler) : Registry :=
  r.updateMethod className method (·.bindHandler h)

/-! ## Queries -/

def model? (r : Registry) (className : String) : Option Model := r.models.get? className

/-- The model of a class by its name, or else by its name in another mix of cases. -/
def findModel? (r : Registry) (className : String) : Option Model :=
  match r.model? className with
  | some m => some m
  | none => r.models.values.find? fun m => Text.equalsIgnoringCase m.className className

def entityName? (r : Registry) (className : String) : Option String :=
  (r.model? className).bind (·.entity)

/-- The field that identifies the instances of a class. -/
def primaryKey? (r : Registry) (className : String) : Option Field :=
  (r.model? className).bind (·.primaryKey?)

def resolver? (r : Registry) (className : String) : Option ResolverClass := r.resolvers.get? className

def method? (r : Registry) (className method : String) : Option Method :=
  (r.resolver? className).bind (·.methods.get? method)

end Registry

end EntityGraph
