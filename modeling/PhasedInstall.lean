import PhasedInstall.Cluster.Access
import PhasedInstall.Cluster.Metadata
import PhasedInstall.Cluster.Rollout
import PhasedInstall.Cluster.Shape
import PhasedInstall.Cluster.Timestamp
import PhasedInstall.Fault
import PhasedInstall.Files.Path
import PhasedInstall.Files.Tree
import PhasedInstall.Http.Client
import PhasedInstall.Http.Discovery
import PhasedInstall.Http.Exchange
import PhasedInstall.Http.Message
import PhasedInstall.Http.Object
import PhasedInstall.Http.Web
import PhasedInstall.Install.Action
import PhasedInstall.Install.CommandLine
import PhasedInstall.Install.Component
import PhasedInstall.Install.Config
import PhasedInstall.Install.Definition
import PhasedInstall.Install.Encoding
import PhasedInstall.Install.Event
import PhasedInstall.Install.Loading
import PhasedInstall.Install.Metrics
import PhasedInstall.Install.Operator
import PhasedInstall.Install.Pass
import PhasedInstall.Install.Phase
import PhasedInstall.Install.Start
import PhasedInstall.Json.Basic
import PhasedInstall.Json.Decode
import PhasedInstall.Json.Overlay
import PhasedInstall.Json.Pointer
import PhasedInstall.Json.Reader
import PhasedInstall.Json.Writer
import PhasedInstall.Main
import PhasedInstall.Manifest.Apply
import PhasedInstall.Manifest.Basic
import PhasedInstall.Manifest.Document
import PhasedInstall.Manifest.Images
import PhasedInstall.Manifest.Owner
import PhasedInstall.Manifest.Source
import PhasedInstall.Manifest.Transform
import PhasedInstall.Number.Binary64
import PhasedInstall.Number.Decimal
import PhasedInstall.Number.Shortest
import PhasedInstall.Program.Basic
import PhasedInstall.Simulation.Passes
import PhasedInstall.Simulation.Service
import PhasedInstall.Simulation.Watch
import PhasedInstall.Simulation.World
import PhasedInstall.Table
import PhasedInstall.Text.Duration
import PhasedInstall.Text.EscapeTable
import PhasedInstall.Text.LetterTables
import PhasedInstall.Text.Lowercase
import PhasedInstall.Text.Pieces
import PhasedInstall.Text.Quoted
import PhasedInstall.Yaml.Cursor
import PhasedInstall.Yaml.Lexeme
import PhasedInstall.Yaml.Node
import PhasedInstall.Yaml.Scalar
import PhasedInstall.Yaml.Stream
import PhasedInstall.Yaml.Token
import PhasedInstall.Proofs.Cluster.Work
import PhasedInstall.Proofs.Install.Recording
import PhasedInstall.Proofs.Install.Course
import PhasedInstall.Proofs.Install.History
import PhasedInstall.Proofs.Install.Releases
import PhasedInstall.Proofs.Install.Takeover
import PhasedInstall.Proofs.Json.Fields
import PhasedInstall.Proofs.Manifest.Addresses
import PhasedInstall.Proofs.Manifest.Mark
import PhasedInstall.Proofs.Cluster.Store
import PhasedInstall.Proofs.Manifest.Tracked
import PhasedInstall.Proofs.Install.Restoration
import PhasedInstall.Proofs.Manifest.Reading
import PhasedInstall.Proofs.Json.Distinct
import PhasedInstall.Proofs.Json.Covering
import PhasedInstall.Proofs.Cluster.Calls
import PhasedInstall.Proofs.Manifest.Refusal
import PhasedInstall.Proofs.Manifest.Recreation
import PhasedInstall.Proofs.Manifest.Variables
import PhasedInstall.Proofs.Manifest.Overrides
import PhasedInstall.Proofs.Manifest.Retained
import PhasedInstall.Proofs.Manifest.References
import PhasedInstall.Proofs.Cluster.Stock
import PhasedInstall.Proofs.Manifest.Settled
import PhasedInstall.Proofs.Install.Reapplying
import PhasedInstall.Proofs.Manifest.Foreign
import PhasedInstall.Proofs.Install.Sparing
import PhasedInstall.Proofs.Manifest.Remembered
import PhasedInstall.Proofs.Install.Finalizer
import PhasedInstall.Proofs.Install.Vanished
import PhasedInstall.Proofs.Install.Conclusion
import PhasedInstall.Proofs.Install.Entries
import PhasedInstall.Proofs.Install.Failure
import PhasedInstall.Proofs.Install.Settling
import PhasedInstall.Proofs.Json.MergePatch
import PhasedInstall.Proofs.Http.Finalizers
import PhasedInstall.Proofs.Manifest.Visiting
import PhasedInstall.Proofs.Install.Visits
import PhasedInstall.Proofs.Install.Versions
import PhasedInstall.Proofs.Http.Readiness
import PhasedInstall.Proofs.Install.Readiness
import PhasedInstall.Proofs.Manifest.Removing
import PhasedInstall.Proofs.Install.Teardown
import PhasedInstall.Proofs.Json.Within
import PhasedInstall.Proofs.Manifest.Edits
import PhasedInstall.Proofs.Manifest.Stages
import PhasedInstall.Proofs.Manifest.Ownership
import PhasedInstall.Proofs.Manifest.Namespaces
import PhasedInstall.Proofs.Manifest.Untouched
import PhasedInstall.Proofs.Manifest.Items
import PhasedInstall.Proofs.Manifest.Arguments
import PhasedInstall.Proofs.Json.Layers
import PhasedInstall.Proofs.Json.Agreement
import PhasedInstall.Proofs.Manifest.Merging
import PhasedInstall.Proofs.Manifest.Unnamed
import PhasedInstall.Proofs.Manifest.Subsystems
import PhasedInstall.Proofs.Manifest.Composition
import PhasedInstall.Proofs.Files.Listing
import PhasedInstall.Proofs.Manifest.Sources
import PhasedInstall.Proofs.Manifest.Directories
import PhasedInstall.Proofs.Install.Groups
import PhasedInstall.Proofs.Json.Texts
import PhasedInstall.Proofs.Install.StoredForm
import PhasedInstall.Proofs.Http.Faults
import PhasedInstall.Proofs.Install.Counts
import PhasedInstall.Proofs.Json.Pointers
import PhasedInstall.Proofs.Json.Writing
import PhasedInstall.Proofs.Manifest.Setters
