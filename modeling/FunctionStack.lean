import FunctionStack.Artifact.Download
import FunctionStack.Artifact.Image
import FunctionStack.Artifact.Location
import FunctionStack.Command.Arguments
import FunctionStack.Command.Invocation
import FunctionStack.Command.Run
import FunctionStack.Compile.Alias
import FunctionStack.Compile.Compute
import FunctionStack.Compile.Destination
import FunctionStack.Compile.Function
import FunctionStack.Compile.Url
import FunctionStack.Compile.Workspace
import FunctionStack.Config.Function
import FunctionStack.Config.Provider
import FunctionStack.Config.Service
import FunctionStack.Config.ServiceFile
import FunctionStack.Config.Settings
import FunctionStack.Config.Shapes
import FunctionStack.Digest.Blob
import FunctionStack.Digest.Block
import FunctionStack.Digest.Sha1
import FunctionStack.Digest.Sha256
import FunctionStack.Digest.Text
import FunctionStack.Failure
import FunctionStack.Main
import FunctionStack.Naming
import FunctionStack.Number.Double
import FunctionStack.Number.Shortest
import FunctionStack.Schema.Basic
import FunctionStack.Schema.Issue
import FunctionStack.Schema.Scalars
import FunctionStack.Schema.Validation
import FunctionStack.Storage.Document
import FunctionStack.Storage.Files
import FunctionStack.Storage.Hashing
import FunctionStack.Storage.Path
import FunctionStack.Template.Core
import FunctionStack.Template.Graph
import FunctionStack.Template.Intrinsic
import FunctionStack.Template.Policy
import FunctionStack.Template.Resource
import FunctionStack.Template.Role
import FunctionStack.Text.Case
import FunctionStack.Text.CaseTable
import FunctionStack.Text.CharacterTable
import FunctionStack.Text.Halves
import FunctionStack.Text.Listing
import FunctionStack.Text.Quoted
import FunctionStack.Text.Search
import FunctionStack.Text.Styling
import FunctionStack.Value.Basic
import FunctionStack.Value.Json
import FunctionStack.Value.Json.Reader
import FunctionStack.Value.Literal
import FunctionStack.Value.Same
import FunctionStack.Value.Section
import FunctionStack.Version.Digest
import FunctionStack.Version.Generation
import FunctionStack.Proofs.Number.ReadBack
import FunctionStack.Proofs.Number.Text
import FunctionStack.Proofs.Compile.Build
import FunctionStack.Proofs.Compile.Service
import FunctionStack.Proofs.Compile.Function
import FunctionStack.Proofs.Value.Json.Number
import FunctionStack.Proofs.Value.Json.Text
import FunctionStack.Proofs.Value.Sort
import FunctionStack.Proofs.Value.Json.Unique
import FunctionStack.Proofs.Template.Policy
import FunctionStack.Proofs.Template.Core
import FunctionStack.Proofs.Compile.Destination
import FunctionStack.Proofs.Compile.Permissions
import FunctionStack.Proofs.Naming
import FunctionStack.Proofs.Template.References
import FunctionStack.Proofs.Template.Substitution
import FunctionStack.Proofs.Compile.References
import FunctionStack.Proofs.Compile.Mentions
import FunctionStack.Proofs.Template.Grants
import FunctionStack.Proofs.Compile.Seed
import FunctionStack.Proofs.Compile.Order
import FunctionStack.Proofs.Digest.Base64
import FunctionStack.Proofs.Value.Alike
import FunctionStack.Proofs.Version.Identity
import FunctionStack.Proofs.Compile.Effect
import FunctionStack.Proofs.Compile.Move
import FunctionStack.Proofs.Compile.Plan
import FunctionStack.Proofs.Compile.Proper
import FunctionStack.Proofs.Compile.Placed
import FunctionStack.Proofs.Compile.Course
import FunctionStack.Proofs.Value.Table
import FunctionStack.Proofs.Template.Complete
import FunctionStack.Proofs.Compile.Whole
import FunctionStack.Proofs.Compile.Again
import FunctionStack.Proofs.Template.Seeds
import FunctionStack.Proofs.Template.Retention
import FunctionStack.Proofs.Compile.Deployments
import FunctionStack.Proofs.Template.Reordering
import FunctionStack.Proofs.Compile.Permutation
import FunctionStack.Proofs.Compile.Siblings
import FunctionStack.Proofs.Value.Same
import FunctionStack.Proofs.Version.Canonical
import FunctionStack.Proofs.Compile.Twins
import FunctionStack.Proofs.Compile.Reconfiguration
import FunctionStack.Proofs.Compile.Relocation
import FunctionStack.Proofs.Compile.Declared
import FunctionStack.Proofs.Compile.UrlAccess
import FunctionStack.Proofs.Compile.Inventory
import FunctionStack.Proofs.Compile.Sending
import FunctionStack.Proofs.Compile.Invocation
import FunctionStack.Proofs.Compile.Resolution
import FunctionStack.Proofs.Storage.Path
import FunctionStack.Proofs.Storage.Files
import FunctionStack.Proofs.Artifact.Download
import FunctionStack.Proofs.Template.Growth
import FunctionStack.Proofs.Compile.Blame
import FunctionStack.Proofs.Compile.Serving
import FunctionStack.Proofs.Compile.Frame
import FunctionStack.Proofs.Compile.FirstFailure
import FunctionStack.Proofs.Compile.Delivery
import FunctionStack.Proofs.Template.Pattern
import FunctionStack.Proofs.Compile.Logging
import FunctionStack.Proofs.Compile.Namesakes
import FunctionStack.Proofs.Compile.StoredCode
import FunctionStack.Proofs.Version.Stream
import FunctionStack.Proofs.Compile.Counterpart
import FunctionStack.Proofs.Compile.Enforcement
import FunctionStack.Proofs.Text.Collation
import FunctionStack.Proofs.Text.Listing
import FunctionStack.Proofs.Version.Legacy
import FunctionStack.Proofs.Compile.Granting
import FunctionStack.Proofs.Storage.HashPool
import FunctionStack.Proofs.Storage.Hashing
import FunctionStack.Proofs.Artifact.Fetching
import FunctionStack.Proofs.Text.Segments
import FunctionStack.Proofs.Compile.Classification
import FunctionStack.Proofs.Artifact.Pinning
import FunctionStack.Proofs.Compile.ImageVersions
import FunctionStack.Proofs.Compile.Network
import FunctionStack.Proofs.Schema.Fields
import FunctionStack.Proofs.Config.Overrides
import FunctionStack.Proofs.Template.Dependencies
import FunctionStack.Proofs.Schema.Kinds
import FunctionStack.Proofs.Schema.Stability
import FunctionStack.Proofs.Schema.Renaming
import FunctionStack.Proofs.Config.Stability
import FunctionStack.Proofs.Compile.Cors
import FunctionStack.Proofs.Value.Json.Characters
import FunctionStack.Proofs.Value.Json.ReadBack
import FunctionStack.Proofs.Value.Json.Reading
import FunctionStack.Proofs.Text.Styling
import FunctionStack.Proofs.Schema.Proper
import FunctionStack.Proofs.Config.Proper
import FunctionStack.Proofs.Compile.Template
import FunctionStack.Proofs.Storage.Spared
import FunctionStack.Proofs.Artifact.Spared
import FunctionStack.Proofs.Command.Steps
import FunctionStack.Proofs.Command.Delivery
import FunctionStack.Proofs.Command.Compile
import FunctionStack.Proofs.Template.Insertion
import FunctionStack.Proofs.Naming.Kinds
