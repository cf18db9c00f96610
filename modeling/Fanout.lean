import Fanout.Backoff
import Fanout.Bus.Basic
import Fanout.Bus.Channel
import Fanout.Bus.Table
import Fanout.Client.Buffer
import Fanout.Client.Config
import Fanout.Client.Error
import Fanout.Client.Network
import Fanout.Client.Session
import Fanout.Client.State
import Fanout.Client.Transport
import Fanout.Client.Url
import Fanout.Client.Wire
import Fanout.CommandLine.Arguments
import Fanout.CommandLine.Plan
import Fanout.CommandLine.Report
import Fanout.CommandLine.Service
import Fanout.Decimal.Binary64
import Fanout.Decimal.Shortest
import Fanout.Event
import Fanout.Filter
import Fanout.Frame
import Fanout.Ids
import Fanout.Json.Decoder
import Fanout.Json.Error
import Fanout.Json.Number
import Fanout.Json.Printer
import Fanout.Json.Reader
import Fanout.Json.Scalar
import Fanout.Json.Skip
import Fanout.Json.Value
import Fanout.Keyed
import Fanout.Log
import Fanout.Main
import Fanout.Proofs.Bus.Callers
import Fanout.Proofs.Bus.Delivery
import Fanout.Proofs.Bus.Drain
import Fanout.Proofs.Bus.Holders
import Fanout.Proofs.Bus.Journal
import Fanout.Proofs.Bus.Operations
import Fanout.Proofs.Bus.Shutdown
import Fanout.Proofs.Bus.Table
import Fanout.Proofs.Client.Run
import Fanout.Proofs.Client.Stream
import Fanout.Proofs.Frame
import Fanout.Proofs.Json.Object
import Fanout.Proofs.Json.RoundTrip
import Fanout.Proofs.Json.Scalar
import Fanout.Proofs.Keyed
import Fanout.Proofs.Server.Carriage
import Fanout.Proofs.Server.History
import Fanout.Proofs.Server.Operations
import Fanout.Proofs.Server.Ownership
import Fanout.Proofs.Server.Stream
import Fanout.Server.Config
import Fanout.Server.Connection
import Fanout.Server.Gate
import Fanout.Server.Inbound
import Fanout.Server.Queue
import Fanout.Server.Registry
import Fanout.Server.Reply
import Fanout.Server.Route
import Fanout.Server.Shutdown
import Fanout.Server.Watchdog
import Fanout.Server.Writer
import Fanout.Settings.Basic
import Fanout.Settings.Environment
import Fanout.Settings.Load
import Fanout.Settings.Merge
import Fanout.Simulation.Bus
import Fanout.Simulation.Connection
import Fanout.Simulation.Gateway
import Fanout.Simulation.Link
import Fanout.Simulation.Pipe
import Fanout.Simulation.Program
import Fanout.Simulation.Registry
import Fanout.Simulation.Session
import Fanout.Socket.Bytes
import Fanout.Socket.Codec
import Fanout.Socket.Digest
import Fanout.Socket.Message
import Fanout.Socket.Upgrade
import Fanout.Telemetry
import Fanout.Text.Blank
import Fanout.Text.Printable
import Fanout.Text.Quoted
import Fanout.Text.Search
import Fanout.Text.Segments
import Fanout.Time.Date
import Fanout.Time.Epoch
import Fanout.Time.Timestamp
import Fanout.Proofs.Client.Observer
import Fanout.Proofs.Client.Wishes
import Fanout.Proofs.Filter
import Fanout.Proofs.Agreement
import Fanout.Proofs.Client.Course
import Fanout.Proofs.Client.Lifecycle
import Fanout.Proofs.Server.Calls
import Fanout.Proofs.Server.Reclaim
import Fanout.Proofs.Server.Silence
import Fanout.Proofs.Text
import Fanout.Proofs.Matching
import Fanout.Proofs.Selection
import Fanout.Proofs.Server.Requests
import Fanout.Proofs.Server.Upgrades
import Fanout.Proofs.Backoff
import Fanout.Proofs.Server.Queue
import Fanout.Proofs.Client.Beats
import Fanout.Proofs.Client.Heartbeat
import Fanout.Proofs.Server.Idle
import Fanout.Proofs.Event
import Fanout.Proofs.Settings.Merge
import Fanout.Proofs.Settings.MergeLaws
import Fanout.Proofs.Settings.Parts
import Fanout.Proofs.Settings.Layers
import Fanout.Proofs.Bus.Accounts
