import EntityGraph.Dict
import EntityGraph.Text.Ascii
/-!
# Request contexts

A request is read-only. A response is one register that guards and handlers write to: a status and headers. Header
names are kept in lower case, so that they match in any mix of ASCII cases, and the last value set is the one read.

A response is behind handles: a handle is the address of one, and so is every clone of it. A context is made of a
request and a handle, which a builder either was given or makes itself. So copies of a context write to the same
response, and whoever has a handle besides writes to it too if the builder was given that handle, and only then.
-/

namespace EntityGraph

structure Request where
  id : Option String := none
  headers : Dict String := .empty

namespace Request

def withId (r : Request) (id : String) : Request := { r with id := some id }

def withHeader (r : Request) (name value : String) : Request :=
  { r with headers := r.headers.insert (Text.asciiLower name) value }

def header? (r : Request) (name : String) : Option String :=
  r.headers.get? (Text.asciiLower name)

end Request

structure Response where
  status : Option Nat := none
  headers : Dict String := .empty

namespace Response

def setStatus (r : Response) (status : Nat) : Response := { r with status := some status }

def setHeader (r : Response) (name value : String) : Response :=
  { r with headers := r.headers.insert (Text.asciiLower name) value }

def header? (r : Response) (name : String) : Option String :=
  r.headers.get? (Text.asciiLower name)

end Response

/-! ## Handles on responses -/

/-- The responses behind all handles, by address. No handle is yet on the addresses from `next` on. -/
structure Responses where
  next : Nat := 0
  stored : Nat → Response := fun _ => {}

/-- Whoever has a handle can read the response at its address and write to it. -/
structure ResponseHandle where
  address : Nat
deriving DecidableEq

namespace ResponseHandle

/-- A handle on a response of its own, to which nothing was written. -/
def fresh (s : Responses) : ResponseHandle × Responses :=
  (⟨s.next⟩, ⟨s.next + 1, fun address => if address = s.next then {} else s.stored address⟩)

def clone (h : ResponseHandle) : ResponseHandle := ⟨h.address⟩

def read (h : ResponseHandle) (s : Responses) : Response := s.stored h.address

def write (h : ResponseHandle) (f : Response → Response) (s : Responses) : Responses :=
  { s with stored := fun address => if address = h.address then f (s.stored address) else s.stored address }

end ResponseHandle

/-! ## Contexts -/

/-- What guards and handlers are given. -/
structure RequestContext where
  request : Request
  response : ResponseHandle

def RequestContext.clone (c : RequestContext) : RequestContext := ⟨c.request, c.response.clone⟩

/-- A context in the making, which may be given a handle that exists already. -/
structure ContextBuilder where
  request : Request := {}
  response : Option ResponseHandle := none

namespace ContextBuilder

def withRequestId (b : ContextBuilder) (id : String) : ContextBuilder := { b with request := b.request.withId id }

def withHeader (b : ContextBuilder) (name value : String) : ContextBuilder :=
  { b with request := b.request.withHeader name value }

def withResponse (b : ContextBuilder) (h : ResponseHandle) : ContextBuilder := { b with response := some h }

/-- Without a handle the context gets one on a response of its own. -/
def build (b : ContextBuilder) (s : Responses) : RequestContext × Responses :=
  match b.response with
  | some h => (⟨b.request, h⟩, s)
  | none => (⟨b.request, (ResponseHandle.fresh s).1⟩, (ResponseHandle.fresh s).2)

end ContextBuilder

/-! ## A context in use -/

/-- Those who have a handle: the context, a copy of it, and whoever made the first handle of all. -/
inductive Holder
  | context
  | copy
  | outside
deriving DecidableEq

namespace Context

/-- The handle from outside is there before the context. -/
def outside : ResponseHandle := (ResponseHandle.fresh {}).1

/-- The making of a context that is given the handle from outside, or not. -/
def builder (request : Request) (shared : Bool) : ContextBuilder :=
  if shared then (ContextBuilder.mk request none).withResponse outside.clone else ⟨request, none⟩

end Context

/-- A context that was made beside the handle from outside, and the responses since. -/
structure Context where
  request : Request
  /-- Whether the context was given the handle from outside. -/
  shared : Bool
  responses : Responses := ((Context.builder request shared).build (ResponseHandle.fresh {}).2).2

namespace Context

def own (c : Context) : RequestContext := ((builder c.request c.shared).build (ResponseHandle.fresh {}).2).1

def handle (c : Context) : Holder → ResponseHandle
  | .context => c.own.response
  | .copy => c.own.clone.response
  | .outside => outside

def response (c : Context) (h : Holder) : Response := (c.handle h).read c.responses

def write (c : Context) (h : Holder) (f : Response → Response) : Context :=
  { c with responses := (c.handle h).write f c.responses }

end Context

end EntityGraph
