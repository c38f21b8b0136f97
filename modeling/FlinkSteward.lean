import FlinkSteward.Text.Blank
import FlinkSteward.Text.Utf8
import FlinkSteward.Manage.Folder
import FlinkSteward.Manage.Manager
import FlinkSteward.Simulation.Script
import FlinkSteward.Text.CaseMap
import FlinkSteward.Text.Lines
import FlinkSteward.Text.Quoted
import FlinkSteward.Number.Basic
import FlinkSteward.Number.Integer
import FlinkSteward.Value.Same
import FlinkSteward.Value.Text
import FlinkSteward.Value.Merge
import FlinkSteward.Resource.Basic
import FlinkSteward.Config.Operator
import FlinkSteward.Observe.Deployment
import FlinkSteward.Control.Trigger
import FlinkSteward.Cluster.Rest
import FlinkSteward.Config.Effective
import FlinkSteward.Yaml.Write
import FlinkSteward.Digest.Sha1
import FlinkSteward.Validation.Registry
import FlinkSteward.Quantity.Duration
import FlinkSteward.Quantity.Memory
import FlinkSteward.Json.Read
import FlinkSteward.Json.Write
import FlinkSteward.Main
import FlinkSteward.Proofs.Resource.RoundTrip
import FlinkSteward.Proofs.Subject
import FlinkSteward.Proofs.Validation.Availability
import FlinkSteward.Proofs.Persistence
import FlinkSteward.Proofs.Manage.Nonce
import FlinkSteward.Proofs.Cluster.Rest
import FlinkSteward.Proofs.Control.Suspend
import FlinkSteward.Proofs.Control.History
import FlinkSteward.Proofs.Observe.Stable
import FlinkSteward.Proofs.Manage.Gate
import FlinkSteward.Proofs.Config.Accepted
import FlinkSteward.Proofs.Json.Sound
import FlinkSteward.Proofs.Resource.Recorded
import FlinkSteward.Proofs.Control.Trigger
import FlinkSteward.Proofs.Validation.Lifetime
import FlinkSteward.Proofs.Value.Same
import FlinkSteward.Proofs.Observe.Passes
import FlinkSteward.Proofs.Control.Once
import FlinkSteward.Proofs.Control.Ledger
import FlinkSteward.Proofs.Validation.Settled
import FlinkSteward.Proofs.Config.Honoured
import FlinkSteward.Proofs.Observe.Readiness
import FlinkSteward.Proofs.Observe.Convergence
import FlinkSteward.Proofs.Control.Suspended
import FlinkSteward.Proofs.Control.Spacing
import FlinkSteward.Proofs.Config.Deployed
import FlinkSteward.Proofs.Validation.Total
import FlinkSteward.Proofs.Validation.Order
import FlinkSteward.Proofs.Command.Wait
import FlinkSteward.Proofs.Manage.Overlap
import FlinkSteward.Proofs.Cluster.Deadline
import FlinkSteward.Proofs.Cluster.Refusal
import FlinkSteward.Proofs.Cluster.Poll
import FlinkSteward.Proofs.Number.Exact
import FlinkSteward.Proofs.Observe.Budget
import FlinkSteward.Proofs.Observe.Tracking
import FlinkSteward.Proofs.Config.Document
import FlinkSteward.Proofs.Text.Case
import FlinkSteward.Proofs.Text.Split
import FlinkSteward.Proofs.Net.Host
import FlinkSteward.Proofs.Observe.Boundary
import FlinkSteward.Proofs.Quantity.Amount
import FlinkSteward.Proofs.Value.Path
import FlinkSteward.Proofs.Config.Precedence
import FlinkSteward.Proofs.Config.Generated
import FlinkSteward.Proofs.Resource.Completed
import FlinkSteward.Proofs.Validation.InTurn
import FlinkSteward.Proofs.Kubernetes.Reads
import FlinkSteward.Proofs.Manage.Overridden
import FlinkSteward.Proofs.Manage.Repeated
