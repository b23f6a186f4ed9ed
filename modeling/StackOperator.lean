import StackOperator.Children.Access
import StackOperator.Children.Job
import StackOperator.Children.Objects
import StackOperator.Cluster.Api
import StackOperator.Cluster.Server
import StackOperator.Cluster.Store
import StackOperator.Cluster.Unreachable
import StackOperator.Cluster.World
import StackOperator.Command.Cluster
import StackOperator.Command.Generate
import StackOperator.Command.Help
import StackOperator.Command.Launch
import StackOperator.Command.Options
import StackOperator.Command.Parse
import StackOperator.Config
import StackOperator.Controller.Capabilities
import StackOperator.Controller.Deploy
import StackOperator.Controller.Handle
import StackOperator.Controller.Reconcile
import StackOperator.Database.Connection
import StackOperator.Database.Vendor
import StackOperator.Decimal.Literal
import StackOperator.Decimal.Shortest
import StackOperator.Decimal.Unsigned
import StackOperator.Deploy.Command
import StackOperator.Deploy.Pass
import StackOperator.Deploy.Schemas
import StackOperator.Deploy.Wait
import StackOperator.Deployable.App
import StackOperator.Deployable.Basic
import StackOperator.Deployable.Database
import StackOperator.Deployable.Keycloak
import StackOperator.Disk
import StackOperator.Error
import StackOperator.Images
import StackOperator.Json.Decode
import StackOperator.Json.MergePatch
import StackOperator.Json.Read
import StackOperator.Json.Skim
import StackOperator.Json.Value
import StackOperator.Json.Write
import StackOperator.Json.Yaml
import StackOperator.K8s.Access
import StackOperator.K8s.Meta
import StackOperator.K8s.Network
import StackOperator.K8s.Pod
import StackOperator.K8s.Schema
import StackOperator.K8s.Shapes
import StackOperator.K8s.Storage
import StackOperator.K8s.Workload
import StackOperator.KeyMap
import StackOperator.Keycloak.Basic
import StackOperator.Keycloak.Server
import StackOperator.Main
import StackOperator.Names
import StackOperator.Net.Address
import StackOperator.Net.Uri
import StackOperator.Quantity
import StackOperator.Request.Answer
import StackOperator.Request.Basic
import StackOperator.Request.Clients
import StackOperator.Request.Commands
import StackOperator.Request.Objects
import StackOperator.Request.Operator
import StackOperator.Request.Pipeline
import StackOperator.Request.Plans
import StackOperator.Request.Resources
import StackOperator.Request.Rules
import StackOperator.Request.Status
import StackOperator.Resource.App
import StackOperator.Resource.Basic
import StackOperator.Resource.DatabaseService
import StackOperator.Resource.Definition
import StackOperator.Resource.KeycloakServer
import StackOperator.Routing
import StackOperator.Status.Basic
import StackOperator.Status.Wire
import StackOperator.Text.Base64
import StackOperator.Text.Blank
import StackOperator.Text.GraphemeExtend
import StackOperator.Text.Printable
import StackOperator.Text.Quoted
import StackOperator.Text.Sha256
import StackOperator.Text.Similarity
import StackOperator.Time.Instant
import StackOperator.Time.Span
import StackOperator.Proofs.SharedIngress
import StackOperator.Proofs.ClusterCalls
import StackOperator.Proofs.StatusWrites
import StackOperator.Proofs.PassRuns
import StackOperator.Proofs.PassEffect
import StackOperator.Proofs.CallOrder
import StackOperator.Proofs.TerminalPhase
import StackOperator.Proofs.DatabaseReach
import StackOperator.Proofs.ObjectReferences
import StackOperator.Proofs.KeycloakResolution
import StackOperator.Proofs.Convergence
import StackOperator.Proofs.ControllerRuns
import StackOperator.Proofs.Addressing
import StackOperator.Proofs.ConfigChecks
import StackOperator.Proofs.StatusFrame
import StackOperator.Proofs.PassOutcome
import StackOperator.Proofs.AppPass
import StackOperator.Proofs.Isolation
import StackOperator.Proofs.Separation
import StackOperator.Proofs.PatchRoundTrip
import StackOperator.Proofs.ErrorChain
import StackOperator.Proofs.ImagePrecedence
import StackOperator.Proofs.PreparedSchemas
import StackOperator.Proofs.SchemaUsernames
import StackOperator.Proofs.DatabaseResolution
import StackOperator.Proofs.StaleRollout
import StackOperator.Proofs.CivilCalendar
import StackOperator.Proofs.InstantText
import StackOperator.Proofs.JsonRecords
import StackOperator.Proofs.StatusCodec
import StackOperator.Proofs.SourcePrecedence
import StackOperator.Proofs.StatusAlgebra
import StackOperator.Proofs.WaitDeadline
import StackOperator.Proofs.StartupProbe
