import Orchestrator.Main
import Orchestrator.Proofs.Store.Action
import Orchestrator.Proofs.Action.Life
import Orchestrator.Proofs.Broker.Attempt
import Orchestrator.Proofs.Broker.Race
import Orchestrator.Proofs.Broker.Expiry
import Orchestrator.Proofs.Floor.Basic
import Orchestrator.Proofs.Floor.Effect
import Orchestrator.Proofs.Evaluation
import Orchestrator.Proofs.Floor.Journal
import Orchestrator.Proofs.Floor.Sound
import Orchestrator.Proofs.Floor.Lifecycle
import Orchestrator.Proofs.Floor.Winner
import Orchestrator.Proofs.Api.Handling
import Orchestrator.Proofs.Api.Serving
import Orchestrator.Proofs.Flow.Validation
import Orchestrator.Proofs.Dispatch
import Orchestrator.Proofs.Floor.Overtaking
import Orchestrator.Proofs.Floor.Alone
import Orchestrator.Proofs.Store.Flow
import Orchestrator.Proofs.Purging
import Orchestrator.Proofs.Floor.Origin
import Orchestrator.Proofs.Floor.Causality
import Orchestrator.Proofs.Floor.Walks
import Orchestrator.Proofs.Floor.Forgetting
import Orchestrator.Proofs.Floor.Pinning
import Orchestrator.Proofs.Floor.Requests
import Orchestrator.Proofs.Floor.Join
import Orchestrator.Proofs.Template.Nesting
import Orchestrator.Proofs.Text.Cuts
import Orchestrator.Proofs.Cron.Grammar
import Orchestrator.Proofs.Cron.Language
import Orchestrator.Proofs.Floor.Inheritance
import Orchestrator.Proofs.Floor.Authority
import Orchestrator.Proofs.Flow.Yield
import Orchestrator.Proofs.Floor.FanOut
import Orchestrator.Proofs.Evaluation.Sources
import Orchestrator.Proofs.Cron.Spelling
import Orchestrator.Proofs.Http.Path
import Orchestrator.Proofs.Api.Links
import Orchestrator.Proofs.Api.Refusal
import Orchestrator.Proofs.Time.Text
import Orchestrator.Proofs.Json.Decode
import Orchestrator.Proofs.Uuid
import Orchestrator.Proofs.Documents
import Orchestrator.Proofs.Identity
import Orchestrator.Proofs.Store.Pack
import Orchestrator.Proofs.Api.Errand
import Orchestrator.Proofs.Api.Attendance
import Orchestrator.Proofs.Api.Shelf
import Orchestrator.Proofs.Flow.Attempts
import Orchestrator.Proofs.Flow.Refusals
import Orchestrator.Proofs.Flow.Order
import Orchestrator.Proofs.Api.Report
import Orchestrator.Proofs.Broker.MoreLabels
import Orchestrator.Proofs.Resolve
import Orchestrator.Proofs.Text.KeyValue
import Orchestrator.Proofs.Text.Spacing
import Orchestrator.Proofs.Template.Filters
