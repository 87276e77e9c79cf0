import EntityGraph.Dict
import EntityGraph.Text.Ascii
import EntityGraph.Text.Casing
import EntityGraph.Text.Quoted
import EntityGraph.Scalar
import EntityGraph.Guard
import EntityGraph.Call
import EntityGraph.Registry.Declaration
import EntityGraph.Registry.Chain
import EntityGraph.Fill
import EntityGraph.Parameters
import EntityGraph.Types.Bound
import EntityGraph.Script.Handler
import EntityGraph.Script.Foreign
import EntityGraph.ConfigText
import EntityGraph.Schema.Builder
import EntityGraph.Request.Execution
import EntityGraph.Proofs.Types.Store
import EntityGraph.Proofs.Types.Layout
import EntityGraph.Proofs.Types.Made
import EntityGraph.Proofs.Types.Visit
import EntityGraph.Proofs.Types.Requests
import EntityGraph.Proofs.Types.WellFormed
import EntityGraph.Proofs.Types.Reachability
import EntityGraph.Proofs.Types.Renumbering
import EntityGraph.Proofs.Registry.Fields
import EntityGraph.Proofs.Fill.Settings
import EntityGraph.Proofs.Fill.Equality
import EntityGraph.Proofs.Fill.InputType
import EntityGraph.Proofs.Types.Stability
import EntityGraph.Proofs.Schema.Preparation
import EntityGraph.Proofs.Schema.Roots
import EntityGraph.Proofs.Schema.Steps
import EntityGraph.Proofs.Schema.FieldNames
import EntityGraph.Proofs.Schema.Closed
import EntityGraph.Proofs.Fill.RoundTrip
import EntityGraph.Proofs.Registry.Exposure
import EntityGraph.Proofs.Schema.Exposure
import EntityGraph.Proofs.Types.Omissions
import EntityGraph.Proofs.Schema.Merging
import EntityGraph.Proofs.Schema.LifeCycle
import EntityGraph.Proofs.Request.Walk
import EntityGraph.Proofs.Dispatch.Authorization
import EntityGraph.Proofs.Dispatch.Arguments
import EntityGraph.Proofs.KeyedLog
import EntityGraph.Proofs.Registry.Log
import EntityGraph.Proofs.Registry.Summary
import EntityGraph.Proofs.Registry.Interleaving
import EntityGraph.Proofs.Schema.TypeNames
import EntityGraph.Proofs.Types.FieldList
import EntityGraph.Proofs.Reading.ForeignIds
import EntityGraph.Proofs.Reading.ScalarFields
import EntityGraph.Proofs.Fill.Shape
import EntityGraph.Proofs.Dispatch.GuardChain
import EntityGraph.Proofs.Reading.Stubs
import EntityGraph.Proofs.Fill.Encodings
import EntityGraph.Proofs.Fill.FlatFields
import EntityGraph.Proofs.Schema.Remarks
import EntityGraph.Proofs.Types.OmittedKeys
import EntityGraph.Proofs.Dispatch.Marshaling
import EntityGraph.Proofs.Reading.WireNames
import EntityGraph.Proofs.Registry.Chains
import EntityGraph.Proofs.Types.Termination
import EntityGraph.Proofs.Contexts
import EntityGraph.Proofs.Instances
