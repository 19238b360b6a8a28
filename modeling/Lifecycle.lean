import Lifecycle.Binary.Snapshot
import Lifecycle.Config
import Lifecycle.Document.Snapshot
import Lifecycle.Document.Transition
import Lifecycle.Machine.Diagram
import Lifecycle.Scenario.Session
import Lifecycle.Proofs.Execution.Atomicity
import Lifecycle.Proofs.Machine.Soundness
import Lifecycle.Proofs.Text.Decimal
import Lifecycle.Proofs.Text.Encoding
import Lifecycle.Proofs.Text.Hexadecimal
import Lifecycle.Proofs.Time.RoundTrip
import Lifecycle.Proofs.Binary.RoundTrip
import Lifecycle.Proofs.Binary.Snapshot
import Lifecycle.Proofs.Json.RoundTrip
import Lifecycle.Proofs.Json.Objects
import Lifecycle.Proofs.Document.Snapshot
import Lifecycle.Proofs.Run.Desk
import Lifecycle.Proofs.Run.Invariant
import Lifecycle.Proofs.Record.Replay
import Lifecycle.Proofs.Store.AuditTrail
import Lifecycle.Proofs.Execution.Phases
import Lifecycle.Proofs.Run.Office
import Lifecycle.Proofs.Store.LostUpdate
import Lifecycle.Proofs.Execution.Result
import Lifecycle.Proofs.Execution.Success
import Lifecycle.Proofs.Machine.Building
import Lifecycle.Proofs.Execution.RecoveryBound
import Lifecycle.Proofs.Machine.Ambiguity
import Lifecycle.Proofs.Machine.Order
import Lifecycle.Proofs.Store.Versions
import Lifecycle.Proofs.Json.Sizes
import Lifecycle.Proofs.Json.Fitting
import Lifecycle.Proofs.Document.Sizes
import Lifecycle.Proofs.Snapshot.Exchange
import Lifecycle.Proofs.Config.Meaning
import Lifecycle.Proofs.Config.Document
import Lifecycle.Proofs.Execution.Preflight
import Lifecycle.Proofs.Snapshot.Framing
import Lifecycle.Proofs.Machine.Views
import Lifecycle.Proofs.Machine.Repeats
import Lifecycle.Proofs.Execution.Recovery
import Lifecycle.Proofs.Execution.Events
import Lifecycle.Proofs.Machine.Recoverability
import Lifecycle.Proofs.Execution.Reports
import Lifecycle.Proofs.Record.Provenance
import Lifecycle.Proofs.Run.Evidence
import Lifecycle.Proofs.Diagram.Lines
import Lifecycle.Proofs.Diagram.Nodes
import Lifecycle.Proofs.Transition.Gathering
import Lifecycle.Proofs.Machine.Defects
import Lifecycle.Proofs.Machine.Inference
import Lifecycle.Proofs.Diagram.Labels
