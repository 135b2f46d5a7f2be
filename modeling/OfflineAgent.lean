import OfflineAgent.Digest.Sha256
import OfflineAgent.Json.Reader
import OfflineAgent.Json.Printer
import OfflineAgent.Url.Parser
import OfflineAgent.Http.Token
import OfflineAgent.Http.RequestTarget
import OfflineAgent.Store.Call
import OfflineAgent.Settings.OfJson
import OfflineAgent.Agent.Control
import OfflineAgent.Server.Router
import OfflineAgent.Simulation.Session
import OfflineAgent.Settings.Load
import OfflineAgent.Cli.Run
import OfflineAgent.Main
import OfflineAgent.Proofs.Work.Discipline
import OfflineAgent.Proofs.Interleaving.System
import OfflineAgent.Proofs.Agent.Operations
import OfflineAgent.Proofs.Lifecycle.SkipWaiting
import OfflineAgent.Proofs.Lifecycle.Activation
import OfflineAgent.Proofs.Strategies.Refresh
import OfflineAgent.Proofs.Machine.Database
import OfflineAgent.Proofs.Simulation.World
import OfflineAgent.Proofs.Agent.Activities
import OfflineAgent.Proofs.Interleaving.Listing
import OfflineAgent.Proofs.Interleaving.Awaiting
import OfflineAgent.Proofs.Interleaving.Rows
import OfflineAgent.Proofs.Strategies.Answer
import OfflineAgent.Proofs.Lifecycle.OwnStores
import OfflineAgent.Proofs.Lifecycle.Replacement
import OfflineAgent.Proofs.Lifecycle.Order
import OfflineAgent.Proofs.Lifecycle.Once
import OfflineAgent.Proofs.Server.Upstream
import OfflineAgent.Proofs.Interleaving.Calm
import OfflineAgent.Proofs.Strategies.Stages
import OfflineAgent.Proofs.Strategies.Concurrent
import OfflineAgent.Proofs.Strategies.Independence
import OfflineAgent.Proofs.Server.Relay
import OfflineAgent.Proofs.Store.Clearing
import OfflineAgent.Proofs.Server.Admission
import OfflineAgent.Proofs.Server.Replay
import OfflineAgent.Proofs.Strategies.OfflinePage
import OfflineAgent.Proofs.Interleaving.Deletions
import OfflineAgent.Proofs.Strategies.Background
import OfflineAgent.Proofs.Strategies.Footprint
import OfflineAgent.Proofs.Lifecycle.Manifest
import OfflineAgent.Proofs.Http.Redirects
import OfflineAgent.Proofs.Settings.Precedence
import OfflineAgent.Proofs.Store.Key
import OfflineAgent.Proofs.Store.Row
import OfflineAgent.Proofs.Server.Messages
import OfflineAgent.Proofs.Agent.Classification
import OfflineAgent.Proofs.Strategies.Healing
import OfflineAgent.Proofs.Server.EndToEnd
