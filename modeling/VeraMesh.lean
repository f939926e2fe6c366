import VeraMesh.Agent.AtMostOnce
import VeraMesh.Agent.Confinement
import VeraMesh.Agent.Exclusivity
import VeraMesh.Agent.Expiry
import VeraMesh.Agent.Identity
import VeraMesh.Agent.Isolation
import VeraMesh.Agent.LockTable
import VeraMesh.Agent.OutputCapture
import VeraMesh.Agent.OutputText
import VeraMesh.Agent.Quiescence
import VeraMesh.Agent.RangedRead
import VeraMesh.Agent.ReplaceText
import VeraMesh.Agent.SearchColumns
import VeraMesh.Agent.SearchCoverage
import VeraMesh.Agent.StateStore
import VeraMesh.Agent.TrustChain
import VeraMesh.Agent.TrustContract
import VeraMesh.Agent.TrustWriters
import VeraMesh.Agent.Upgrade
import VeraMesh.Agent.UpgradeOutcome
import VeraMesh.Agent.UpgradeSteps
import VeraMesh.Agent.Watchdog
import VeraMesh.Backend.Listing
import VeraMesh.Controller.Ambiguity
import VeraMesh.Controller.Ceiling
import VeraMesh.Controller.Conservation
import VeraMesh.Controller.ReadFailover
import VeraMesh.Controller.RetryDiscipline
import VeraMesh.Edge.StdioHost
import VeraMesh.Edge.Transparency
import VeraMesh.Gateway.ActorIsolation
import VeraMesh.Gateway.AllowedRoots
import VeraMesh.Gateway.FenceEpochs
import VeraMesh.Gateway.LaneArguments
import VeraMesh.Gateway.LaneCleanup
import VeraMesh.Gateway.NormalForm
import VeraMesh.Gateway.OperationCeiling
import VeraMesh.Gateway.Routing
import VeraMesh.Gateway.Submission
import VeraMesh.Lane.Exclusion
import VeraMesh.Lib.Attempt
import VeraMesh.Lib.Quoting
import VeraMesh.Lib.Removal
import VeraMesh.Lib.Replacement
import VeraMesh.Lib.Triple
import VeraMesh.Operator.Approvals
import VeraMesh.Operator.Redaction
import VeraMesh.Operator.Session
import VeraMesh.PublicGateway.Cleanup
import VeraMesh.PublicGateway.Facade
import VeraMesh.PublicGateway.FacadeSteps
import VeraMesh.PublicGateway.LaneCleanup
import VeraMesh.PublicGateway.PathAgreement
import VeraMesh.PublicGateway.ProcessLease
import VeraMesh.PublicGateway.PublicTools
import VeraMesh.PublicGateway.RemotePath
import VeraMesh.Python.Path
import VeraMesh.Session.Agreement
import VeraMesh.Stream.BoundedService
import VeraMesh.Stream.Correlation
import VeraMesh.Stream.Framing
import VeraMesh.Tunnel.Commands
import VeraMesh.Tunnel.Runtime
import VeraMesh.Tunnel.Supervision
import VeraMesh.Veraport.Client
