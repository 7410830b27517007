import SceneGraph.Bytes.Basic
import SceneGraph.Bytes.DataUrl
import SceneGraph.Bytes.Inflate
import SceneGraph.Bytes.Path
import SceneGraph.Bytes.Zip
import SceneGraph.Command.Arguments
import SceneGraph.Command.Run
import SceneGraph.Command.Storage
import SceneGraph.Compile
import SceneGraph.Config.Basic
import SceneGraph.Export
import SceneGraph.Expr.Basic
import SceneGraph.Expr.Constant
import SceneGraph.Expr.Input
import SceneGraph.Expr.Logic
import SceneGraph.Expr.Math
import SceneGraph.Expr.Registry
import SceneGraph.Expr.Session
import SceneGraph.Expr.Snippet
import SceneGraph.Expr.Texture
import SceneGraph.Failure
import SceneGraph.Gpu
import SceneGraph.Graph.Order
import SceneGraph.Graph.Reach
import SceneGraph.Hcl.Datum
import SceneGraph.Hcl.Eval
import SceneGraph.Hcl.Parser
import SceneGraph.Hcl.Token
import SceneGraph.Hcl.Tree
import SceneGraph.Image.Basic
import SceneGraph.Image.Bmp
import SceneGraph.Image.Encoder
import SceneGraph.Image.Png
import SceneGraph.Json.Access
import SceneGraph.Json.Parser
import SceneGraph.Json.Printer
import SceneGraph.Json.Value
import SceneGraph.Live.Cache
import SceneGraph.Live.Engine
import SceneGraph.Live.Metrics
import SceneGraph.Live.Server
import SceneGraph.Live.Watcher
import SceneGraph.Log
import SceneGraph.Main
import SceneGraph.Number.Decimal
import SceneGraph.Number.Duration
import SceneGraph.Number.Elementary
import SceneGraph.Number.Numeral
import SceneGraph.Number.Wide
import SceneGraph.Plan.Basic
import SceneGraph.Plan.Blend
import SceneGraph.Plan.Build
import SceneGraph.Plan.Builder
import SceneGraph.Plan.Draw
import SceneGraph.Plan.Effect
import SceneGraph.Prepare.Bake
import SceneGraph.Prepare.Baked
import SceneGraph.Prepare.Basic
import SceneGraph.Prepare.Error
import SceneGraph.Prepare.Groups
import SceneGraph.Prepare.Images
import SceneGraph.Prepare.Layers
import SceneGraph.Prepare.Names
import SceneGraph.Prepare.Wrap
import SceneGraph.Proofs.Accepted
import SceneGraph.Proofs.Acyclic
import SceneGraph.Proofs.Adoption
import SceneGraph.Proofs.Agreement
import SceneGraph.Proofs.Archives
import SceneGraph.Proofs.Baking
import SceneGraph.Proofs.Buffers
import SceneGraph.Proofs.Built
import SceneGraph.Proofs.Caches
import SceneGraph.Proofs.Clock
import SceneGraph.Proofs.Commuting
import SceneGraph.Proofs.Compilers
import SceneGraph.Proofs.Confluence
import SceneGraph.Proofs.Copies
import SceneGraph.Proofs.Dangling
import SceneGraph.Proofs.Dependencies
import SceneGraph.Proofs.DistinctIds
import SceneGraph.Proofs.Documents
import SceneGraph.Proofs.Domains
import SceneGraph.Proofs.DrawnOnce
import SceneGraph.Proofs.Draws
import SceneGraph.Proofs.Edits
import SceneGraph.Proofs.EntryNames
import SceneGraph.Proofs.Events
import SceneGraph.Proofs.Expansion
import SceneGraph.Proofs.Expressions
import SceneGraph.Proofs.Flattening
import SceneGraph.Proofs.FoldedTypes
import SceneGraph.Proofs.Folding
import SceneGraph.Proofs.Grids
import SceneGraph.Proofs.Images
import SceneGraph.Proofs.Inheritance
import SceneGraph.Proofs.Instances
import SceneGraph.Proofs.Landing
import SceneGraph.Proofs.LayerOrder
import SceneGraph.Proofs.Layers
import SceneGraph.Proofs.Lengths
import SceneGraph.Proofs.LoadOps
import SceneGraph.Proofs.Lockstep
import SceneGraph.Proofs.Modules
import SceneGraph.Proofs.Names
import SceneGraph.Proofs.Nesting
import SceneGraph.Proofs.NormalForms
import SceneGraph.Proofs.Numerals
import SceneGraph.Proofs.Order
import SceneGraph.Proofs.OutputTypes
import SceneGraph.Proofs.PaintersOrder
import SceneGraph.Proofs.Parameters
import SceneGraph.Proofs.PassIds
import SceneGraph.Proofs.PassObjects
import SceneGraph.Proofs.Permuted
import SceneGraph.Proofs.PermutedCode
import SceneGraph.Proofs.PermutedCompile
import SceneGraph.Proofs.PermutedRoutes
import SceneGraph.Proofs.Pipelines
import SceneGraph.Proofs.Planning
import SceneGraph.Proofs.PortTypes
import SceneGraph.Proofs.Prepared
import SceneGraph.Proofs.Queued
import SceneGraph.Proofs.Reachability
import SceneGraph.Proofs.Reads
import SceneGraph.Proofs.Realizing
import SceneGraph.Proofs.References
import SceneGraph.Proofs.Resources
import SceneGraph.Proofs.Restored
import SceneGraph.Proofs.Routes
import SceneGraph.Proofs.Run
import SceneGraph.Proofs.SameCode
import SceneGraph.Proofs.SamePlan
import SceneGraph.Proofs.Scripts
import SceneGraph.Proofs.Sessions
import SceneGraph.Proofs.Settled
import SceneGraph.Proofs.Shaking
import SceneGraph.Proofs.Sizes
import SceneGraph.Proofs.Slots
import SceneGraph.Proofs.Storage
import SceneGraph.Proofs.Stream
import SceneGraph.Proofs.Tables
import SceneGraph.Proofs.Termination
import SceneGraph.Proofs.TextureOwners
import SceneGraph.Proofs.Totals
import SceneGraph.Proofs.Turns
import SceneGraph.Proofs.TypedCode
import SceneGraph.Proofs.TypedCompilers
import SceneGraph.Proofs.TypedSession
import SceneGraph.Proofs.Typing
import SceneGraph.Proofs.Wakeups
import SceneGraph.Proofs.WholeNumbers
import SceneGraph.Proofs.Wrapping
import SceneGraph.Proofs.WrittenTrees
import SceneGraph.Route
import SceneGraph.Scene.Archive
import SceneGraph.Scene.Basic
import SceneGraph.Scene.Builder
import SceneGraph.Scene.Delta
import SceneGraph.Scene.Document
import SceneGraph.Scene.Structure
import SceneGraph.Scene.Value
import SceneGraph.Schema.Basic
import SceneGraph.Schema.Builtin
import SceneGraph.Schema.Document
import SceneGraph.Schema.Validate
import SceneGraph.Shader.Code
import SceneGraph.Shader.Module
import SceneGraph.Shader.ValueType
import SceneGraph.Space.Basic
import SceneGraph.Space.Device
import SceneGraph.Space.Realize
import SceneGraph.Space.Signature
import SceneGraph.Table
import SceneGraph.Text.Blank
import SceneGraph.Text.Canonical
import SceneGraph.Text.CaseFold
import SceneGraph.Text.Identifier
import SceneGraph.Text.Lower
import SceneGraph.Text.Nfc
import SceneGraph.Text.Printable
import SceneGraph.Text.Quoted
import SceneGraph.Text.Raster
import SceneGraph.Text.Utf8
import SceneGraph.View.Live
import SceneGraph.View.Prepared
import SceneGraph.View.Scene
import SceneGraph.View.Space
import SceneGraph.Wgsl.Check
import SceneGraph.Wgsl.Module
import SceneGraph.Wgsl.Parser
import SceneGraph.Wgsl.Shape
import SceneGraph.Wgsl.Token
import SceneGraph.Wgsl.Tree
import SceneGraph.Yaml.Cursor
import SceneGraph.Yaml.Node
import SceneGraph.Yaml.Resolve
import SceneGraph.Yaml.Scalar
import SceneGraph.Yaml.Token
