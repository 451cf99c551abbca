import Lifeline.Main
import Lifeline.Proofs.Transport.Exchanges
import Lifeline.Proofs.Transport.Attempts
import Lifeline.Proofs.Transport.Calls
import Lifeline.Proofs.Number.Value
import Lifeline.Proofs.Config.Validation
import Lifeline.Proofs.Toml.Names
import Lifeline.Proofs.Config.Layers
import Lifeline.Proofs.Config.Loading
import Lifeline.Proofs.Config.Template
import Lifeline.Proofs.Files.Paths
import Lifeline.Proofs.Files.Tree
import Lifeline.Proofs.Files.Following
import Lifeline.Proofs.Files.Directories
import Lifeline.Proofs.Files.Landings
import Lifeline.Proofs.Config.Creation
import Lifeline.Proofs.Config.Overwriting
import Lifeline.Proofs.Text.Utf8
import Lifeline.Proofs.Text.Cuts
import Lifeline.Proofs.Text.Lines
import Lifeline.Proofs.Text.Trimming
import Lifeline.Proofs.Text.Letters
import Lifeline.Proofs.Operator.Lines
import Lifeline.Proofs.Operator.Feed
import Lifeline.Proofs.Operator.Queue
import Lifeline.Proofs.Operator.Quit
import Lifeline.Proofs.Json.Quoted
import Lifeline.Proofs.Event.Json
import Lifeline.Proofs.Display.Framing
import Lifeline.Proofs.Display.Budgets
import Lifeline.Proofs.Heartbeat.Clock
import Lifeline.Proofs.Session.History
import Lifeline.Proofs.Session.Cycle
import Lifeline.Proofs.Session.Course
import Lifeline.Proofs.Session.Timekeeping
import Lifeline.Proofs.Session.Lifecycle
import Lifeline.Proofs.Session.Deliveries
import Lifeline.Proofs.Session.Arrivals
import Lifeline.Proofs.Session.Chunks
import Lifeline.Proofs.Session.Rendition
import Lifeline.Proofs.Session.Portions
import Lifeline.Proofs.Session.Sentinels
import Lifeline.Proofs.Session.Replies
import Lifeline.Proofs.Session.Rest
import Lifeline.Proofs.Session.Runs
import Lifeline.Proofs.Session.Quits
import Lifeline.Proofs.Session.Quiescence
import Lifeline.Proofs.Session.Alternation
import Lifeline.Proofs.Session.Causes
import Lifeline.Proofs.Session.Shutdowns
import Lifeline.Proofs.Session.Aftermath
import Lifeline.Proofs.Session.Faults
import Lifeline.Proofs.Session.Sends
import Lifeline.Proofs.Session.Cadence
import Lifeline.Proofs.Session.LastCycle
import Lifeline.Proofs.Session.Interrupts
import Lifeline.Proofs.Session.Signals
import Lifeline.Proofs.Session.Counterparts
import Lifeline.Proofs.Session.Independence
import Lifeline.Proofs.Session.Transparency
