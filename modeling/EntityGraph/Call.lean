import EntityGraph.Context
import EntityGraph.Instance
/-!
# Calls of resolver methods

A method is called with one argument per parameter, null where nothing was supplied. The body of a method is a
`Handler`: it sees the instance it belongs to, the arguments and the request, and it may write to the response.
-/

namespace EntityGraph

inductive Argument
  | null
  | scalar (v : Value)
  | model (i : Instance)
  | list (items : List Argument)
deriving Inhabited

namespace Argument

def isNull : Argument → Bool
  | .null => true
  | _ => false

def scalar? : Argument → Option Value
  | .scalar v => some v
  | _ => none

def text? : Argument → Option String
  | .scalar (.text s) => some s
  | _ => none

def double? : Argument → Option Binary64
  | .scalar (.number n) => some n.toBinary64
  | _ => none

def model? : Argument → Option Instance
  | .model i => some i
  | _ => none

def list? : Argument → Option (List Argument)
  | .list items => some items
  | _ => none

/-- The argument as a plain value. -/
def toValue : Argument → Value
  | .null => .null
  | .scalar v => v
  | .model i => i.toValue
  | .list items => .list (items.map toValue)

/-- The argument at a position; past the end all are null. -/
def at? (arguments : List Argument) (position : Nat) : Argument :=
  arguments[position]?.getD .null

end Argument

/-! ## Instances of resolver classes -/

/-- An instance registered under a resolver class. Two registrations make two instances, told apart by `serial`. -/
structure ResolverInstance where
  serial : Nat
  className : String
  /-- The type that the instance was made from. -/
  implementation : String
  label : String
deriving DecidableEq

/-- An instance as one of its handlers sees it. -/
structure Receiver where
  label : String
  /-- Calls handled so far by this instance, the present one included. -/
  calls : Nat

structure Call where
  receiver : Receiver
  arguments : List Argument
  request : Request

/-- The body of a method. One declared for an implementation is only run on instances of it; without, it runs on any
instance, of which it then knows nothing. -/
structure Handler where
  implementation : Option String
  body : Call → Response → Except Failure Value × Response

namespace Handler

/-- What a handler for any instance sees of the instance. -/
def anonymous : Receiver := ⟨"raw", 0⟩

def accepts (h : Handler) (i : ResolverInstance) : Bool :=
  match h.implementation with
  | some implementation => implementation == i.implementation
  | none => true

end Handler

end EntityGraph
