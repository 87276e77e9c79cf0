import EntityGraph.Entries
import EntityGraph.Schema.Signature
/-!
# Which types lead to which

A type mentions the types of its fields, of their arguments and of its input fields. The types that some types lead to
are found by repeated scans of a catalog, each of which adds what the known types mention.
-/

namespace EntityGraph

def FieldSignature.mentions (f : FieldSignature) : List String :=
  f.type.concrete :: f.arguments.map (·.type.concrete)

/-- The names of the types that a type mentions. -/
def TypeSignature.mentions : TypeSignature → List String
  | .scalar _ => []
  | .enumeration _ => []
  | .object fields => fields.flatMap FieldSignature.mentions
  | .input fields => fields.map (·.type.concrete)

/-- Signatures by the names of types. -/
abbrev Catalog := Entries TypeSignature

namespace Catalog

def type? (c : Catalog) (name : String) : Option TypeSignature := Entries.get? c name

def mentions (c : Catalog) (name : String) : List String := (c.type? name).elim [] (·.mentions)

/-- Adds the types of the catalog that the known ones mention. -/
def spread (c : Catalog) (known : List String) : List String :=
  known ++ c.keys.filter fun name =>
    !known.contains name && known.any fun other => (c.mentions other).contains name

def spreadTimes (c : Catalog) : Nat → List String → List String
  | 0, known => known
  | n + 1, known => spreadTimes c n (c.spread known)

/-- The types that some types lead to. Each step but the last finds another type, so there are no more steps than
types. -/
def reached (c : Catalog) (start : List String) : List String := c.spreadTimes c.length start

end Catalog

end EntityGraph
