import EntityGraph.Config
import EntityGraph.Toml.Document
/-!
# Configuration from a document

Every key may be missing, and then has its default; keys that mean nothing here are passed over. A value of the wrong
kind makes the document malformed, and a well-formed one is validated.
-/

namespace EntityGraph

namespace Toml

/-- Reads the entry of a key by `read`, or takes the default if there is none. -/
def Entries.field {α : Type} (entries : Entries) (key : String) (read : Node → Option α) (default : α) : Option α :=
  match Entries.get? entries key with
  | some node => read node
  | none => some default

/-- A size has sixty-four bits. -/
def Node.size? : Node → Option Nat
  | .integer n => if 0 ≤ n ∧ n < (1 <<< 64 : Nat) then some n.toNat else none
  | _ => none

def Node.boolean? : Node → Option Bool
  | .boolean b => some b
  | _ => none

def Node.text? : Node → Option String
  | .text s => some s
  | _ => none

end Toml

namespace Config

def ofEntries? (entries : Toml.Entries) : Option Config := do
  let defaults : Config := {}
  let maxDepth ← entries.field "max_depth" Toml.Node.size? defaults.maxDepth
  let maxComplexity ← entries.field "max_complexity" Toml.Node.size? defaults.maxComplexity
  let introspection ← entries.field "introspection" Toml.Node.boolean? defaults.introspection
  let inputPrefix ← entries.field "input_type_prefix" Toml.Node.text? defaults.inputPrefix
  let contextTypeName ← entries.field "context_type_name" Toml.Node.text? defaults.contextTypeName
  let logLevel ← entries.field "log_level" Toml.Node.text? defaults.logLevel
  some { maxDepth, maxComplexity, introspection, inputPrefix, contextTypeName, logLevel }

/-- Reads and validates a configuration. -/
def ofText (s : String) : Except GraphError Config :=
  match (Toml.parse? s).bind ofEntries? with
  | none => .error .malformedConfig
  | some c =>
    match c.validate with
    | .ok _ => .ok c
    | .error e => .error e

end Config

end EntityGraph
