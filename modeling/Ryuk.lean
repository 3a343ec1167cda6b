import Ryuk.Foundation.Decimal
import Ryuk.Foundation.Json
import Ryuk.Foundation.Document
import Ryuk.Foundation.JsonText
import Ryuk.Foundation.JsonRoundTrip
import Ryuk.Foundation.JsonHooks
import Ryuk.Foundation.Calendar
import Ryuk.Foundation.Datetime
import Ryuk.Foundation.IsoOrder
import Ryuk.Foundation.Text
import Ryuk.Foundation.Table
import Ryuk.Foundation.Transaction
import Ryuk.Foundation.Views
import Ryuk.Foundation.Machine
import Ryuk.Foundation.Simulation
import Ryuk.Foundation.Allowance
import Ryuk.Foundation.Raises
import Ryuk.Foundation.Dependency
import Ryuk.Foundation.Peeling
import Ryuk.Foundation.History
import Ryuk.Platform
import Ryuk.Inference.Contracts
import Ryuk.Inference.Advanced
import Ryuk.Inference.Deployment
import Ryuk.Inference.Capabilities
import Ryuk.Inference.Results
import Ryuk.Audit.Deterministic
import Ryuk.Workflows.Contracts
import Ryuk.Workflows.Budget
import Ryuk.Workflows.Validation
import Ryuk.Workflows.Store
import Ryuk.Workflows.Lifecycle
import Ryuk.Workflows.Refinement
import Ryuk.Workflows.Recovery
import Ryuk.Workflows.Invariants
import Ryuk.Workflows.SingleTask
import Ryuk.Workflows.BatchRecovery
import Ryuk.Workflows.Evidence
import Ryuk.Workflows.Executor
import Ryuk.Workflows.CrashConsistency
import Ryuk.Workflows.Graph
import Ryuk.Workflows.Scheduling
import Ryuk.Workflows.Transition
import Ryuk.Workflows.Propagation
import Ryuk.Workflows.GraphStore
import Ryuk.Workflows.GraphLifecycle
import Ryuk.Workflows.GraphRefinement
import Ryuk.Workflows.GraphNodes
import Ryuk.Workflows.GraphHistory
import Ryuk.Workflows.GraphCodec
import Ryuk.Workflows.PacketCodec
import Ryuk.Workflows.Progress
import Ryuk.Workflows.GraphReplay
import Ryuk.Workflows.GraphOperations
import Ryuk.Workflows.GraphFrames
import Ryuk.Workflows.GraphCancellation
import Ryuk.Workflows.GraphProgress
import Ryuk.Workflows.GraphViews
import Ryuk.Workflows.GraphResults
import Ryuk.Workflows.Leases
import Ryuk.Workflows.DurableBudget
import Ryuk.Workflows.BudgetRefinement
import Ryuk.Workflows.Dispatcher
import Ryuk.Workflows.DispatcherRuns
import Ryuk.Workflows.Intake
import Ryuk.Foundation.Numbering
import Ryuk.Foundation.Selection
import Ryuk.Foundation.Noninterference
import Ryuk.Foundation.Confinement
import Ryuk.Context.Contracts
import Ryuk.Context.Store
import Ryuk.Context.Builder
import Ryuk.Context.Isolation
import Ryuk.Context.Indistinguishable
import Ryuk.Context.Integrity
import Ryuk.Context.Preparation
import Ryuk.Context.Fitting
import Ryuk.Context.Assembly
import Ryuk.Workflows.StoreReads
import Ryuk.Workflows.TenantTasks
import Ryuk.Workflows.TenantGraphs
import Ryuk.Workflows.TenantIsolation
import Ryuk.Foundation.FixedWindow
import Ryuk.Control.Admission
import Ryuk.Control.AdmissionLimits
import Ryuk.Foundation.RedisScript
import Ryuk.Control.RedisAdmission
import Ryuk.Control.RedisRetention
import Ryuk.Control.RedisExpiry
import Ryuk.Workflows.StoredFormat
import Ryuk.Foundation.Registry
import Ryuk.Workflows.Requests
import Ryuk.Workflows.Idempotency
import Ryuk.Workflows.GraphIdempotency
import Ryuk.Workflows.Snapshots
import Ryuk.Workflows.Acceptance
import Ryuk.Workflows.Bindings
import Ryuk.Workflows.GraphAcceptance
import Ryuk.Workflows.DecoderErrors
import Ryuk.Workflows.EventLog
import Ryuk.Foundation.Ranking
import Ryuk.Foundation.Rounding
import Ryuk.Foundation.Binary64
import Ryuk.Foundation.Dict
import Ryuk.Inference.Policy
import Ryuk.Inference.Registry
import Ryuk.Inference.RuntimeState
import Ryuk.Inference.PolicyOrder
import Ryuk.Inference.Ordering
import Ryuk.Inference.Preference
import Ryuk.Inference.FirstAttempt
import Ryuk.Evaluation.Routing
import Ryuk.Foundation.Window
import Ryuk.Inference.Collector
import Ryuk.Inference.Feedback
import Ryuk.Inference.Tracking
import Ryuk.Foundation.Autocommit
import Ryuk.Control.RecordStore
import Ryuk.Control.Migration
import Ryuk.Inference.AttemptHistory
import Ryuk.Inference.AttemptRoundTrip
import Ryuk.Foundation.Halting
import Ryuk.Inference.Execution
import Ryuk.Inference.ExecutionHistory
import Ryuk.Inference.Deadlines
import Ryuk.Inference.Upstream
import Ryuk.Inference.Adapters
import Ryuk.Inference.AdapterErrors
import Ryuk.Inference.Failover
import Ryuk.Api.Inference
import Ryuk.Api.Permits
import Ryuk.Workflows.Shown
import Ryuk.Workflows.GraphShown
import Ryuk.Foundation.Interaction
import Ryuk.Api.Operations
import Ryuk.Api.Service
import Ryuk.Api.Workflows
import Ryuk.Api.WorkflowRuns
import Ryuk.Api.WorkflowAnswers
import Ryuk.Api.WorkflowService
import Ryuk.Api.GraphRoutes
import Ryuk.Api.GraphAnswers
import Ryuk.Foundation.Saturation
import Ryuk.Workflows.Refreshing
import Ryuk.Foundation.Conversation
import Ryuk.Api.BodyLimit
import Ryuk.Foundation.ScoreInterval
import Ryuk.Evaluation.Statistics
import Ryuk.Evaluation.Governance
import Ryuk.Foundation.JsonLines
import Ryuk.Workflows.DependencyEnvelope
import Ryuk.Workflows.BudgetBinding
import Ryuk.Foundation.Grouping
import Ryuk.Foundation.JsonDocument
import Ryuk.Evaluation.Manifest
import Ryuk.Evaluation.ManifestDigest
import Ryuk.Foundation.Tally
import Ryuk.Evaluation.GradingSummary
import Ryuk.Api.GraphCreation
import Ryuk.Api.GraphService
import Ryuk.Foundation.Encoding
import Ryuk.Control.Security
import Ryuk.Control.Provisioning
import Ryuk.Api.Access
import Ryuk.Foundation.Seclusion
import Ryuk.Api.TenantRoutes
import Ryuk.Control.RedisQuotas
