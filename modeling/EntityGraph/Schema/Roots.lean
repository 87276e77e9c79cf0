import EntityGraph.Root
/-!
# The query and the mutation root

Fields are added to the roots resolver by resolver. Of two fields with one name the later is kept, in the place of
the earlier, and the repetition is noted.
-/

namespace EntityGraph

/-- The name of a root's object type. -/
def RootKind.typeName : RootKind → String
  | .query => "Query"
  | .mutation => "Mutation"

structure Roots where
  query : Dict RootField := .empty
  mutation : Dict RootField := .empty

namespace Roots

def fields (r : Roots) : RootKind → Dict RootField
  | .query => r.query
  | .mutation => r.mutation

def addField (kind : RootKind) (root : Dict RootField) (f : RootField) : Logged (Dict RootField) :=
  if root.contains f.name then .noting (root.insert f.name f) (.duplicateRootField kind.typeName f.name)
  else pure (root.insert f.name f)

def addFields (kind : RootKind) : Dict RootField → List RootField → Logged (Dict RootField)
  | root, [] => pure root
  | root, f :: fs => do
    let root ← addField kind root f
    addFields kind root fs

/-- Adds the fields of one resolver, those of the query root first. -/
def addResolver (r : Roots) (fields : List RootField) : Logged Roots := do
  let query ← addFields .query r.query (fields.filter (·.kind == .query))
  let mutation ← addFields .mutation r.mutation (fields.filter (·.kind == .mutation))
  pure ⟨query, mutation⟩

def addResolvers : Roots → List (List RootField) → Logged Roots
  | r, [] => pure r
  | r, fields :: rest => do
    let r ← r.addResolver fields
    addResolvers r rest

/-- The roots of resolvers whose fields were prepared in this order. -/
def ofResolvers (prepared : List (List RootField)) : Logged Roots := addResolvers {} prepared

def hasMutation (r : Roots) : Bool := !r.mutation.isEmpty

end Roots

end EntityGraph
