import EntityGraph.Call
import EntityGraph.Script.Guard
/-!
# Handlers described by data

The body of a method as a small script: it fails, or writes an effect to the response and gives one value, constant
or read from the call.
-/

namespace EntityGraph

/-- What a scripted handler gives back. -/
inductive Answer
  | constant (v : Value)
  | argument (position : Nat)
  /-- The length of a list argument. -/
  | length (position : Nat)
  /-- A field of the instance nested under a field of a model argument. -/
  | nested (position : Nat) (field className key : String)
  | header (name : String)
  | label
  | callCount
  | requestId
  | argumentCount
  | nothing

def optionalText : Option String → Value
  | some s => .text s
  | none => .null

def Answer.give (call : Call) : Answer → Value
  | .constant v => v
  | .argument n => (Argument.at? call.arguments n).toValue
  | .length n =>
    match (Argument.at? call.arguments n).list? with
    | some items => .number (.int items.length)
    | none => .null
  | .nested n field className key =>
    (((Argument.at? call.arguments n).model?.bind (·.nested? field className)).bind (·.get? key)).getD .null
  | .header name => optionalText (call.request.header? name)
  | .label => .text call.receiver.label
  | .callCount => .number (.int call.receiver.calls)
  | .requestId => optionalText call.request.id
  | .argumentCount => .number (.int call.arguments.length)
  | .nothing => .null

inductive HandlerScript
  | fail (message code : String)
  | answer (effect : Effect) (answer : Answer)

/-- A script that fails writes nothing first. -/
def HandlerScript.body : HandlerScript → Call → Response → Except Failure Value × Response
  | .fail message code, _, response => (.error ⟨message, some code⟩, response)
  | .answer effect a, call, response => (.ok (a.give call), effect.apply response)

end EntityGraph
