import Roundwright.State.TransitionLog
import Roundwright.Dependency.CandidateMovement
import Roundwright.Dependency.Migration
import Roundwright.Dependency.Validation
import Roundwright.Dependency.History
import Roundwright.Gate.Invariant
import Roundwright.Role.Budget
import Roundwright.GitHub.JournalRace
import Roundwright.GitHub.Authorization
import Roundwright.GitHub.Broker
import Roundwright.GitHub.BrokerStep
import Roundwright.Final.Decision
import Roundwright.Final.Dispute
import Roundwright.Final.Ready
import Roundwright.Final.Aggregate
import Roundwright.GitHub.BrokerServes
import Roundwright.GitHub.Dispatch
import Roundwright.GitHub.Effect
import Roundwright.GitHub.Unknown
import Roundwright.Lib.Script
import Roundwright.Provider.Abandonment
import Roundwright.Provider.Answer
import Roundwright.Provider.AnswerRun
import Roundwright.Provider.Coordinate
import Roundwright.Provider.CoordinateMigration
import Roundwright.Recovery.Codec
import Roundwright.Recovery.Route
import Roundwright.Recovery.RouteUse
import Roundwright.Recovery.Scope
import Roundwright.Source.Selection
import Roundwright.Worker.Effect
import Roundwright.Worker.Turns
import Roundwright.Review.Settlement
import Roundwright.Handoff.Generation
import Roundwright.Handoff.Renewal
import Roundwright.Native.Divergence
import Roundwright.Canary.Counting
import Roundwright.Provenance.Archive
import Roundwright.Shadow.Verdict
import Roundwright.Lifecycle.Chain
import Roundwright.Role.Selection
import Roundwright.Lifecycle.Comparison
import Roundwright.Planning.Rejection
import Roundwright.Provider.Sequence
import Roundwright.Role.Path
import Roundwright.Source.EdgeOrder
import Roundwright.Worker.Steps
import Roundwright.Source.Scan
import Roundwright.Source.Evidence
import Roundwright.State.RuntimeReturn
import Roundwright.Provenance.Publication
import Roundwright.Gate.ActivationOrder
import Roundwright.GitHub.Collections
import Roundwright.GitHub.Inventory
import Roundwright.Planning.Submission
