import Fanout.Client.Network
import Fanout.CommandLine.Report
import Fanout.Log
import Fanout.Server.Config
import Fanout.Server.Shutdown

/-! What a server tells about its own start and end, and how that is logged. -/
namespace Fanout.CommandLine

/-- A part of the program that logs. -/
inductive Component where
  | bus
  | metrics
  | server
  | shutdown
  | program
  deriving DecidableEq

/-- How records name it. -/
def Component.name : Component → String
  | .bus => "herald_bus::bus"
  | .metrics => "herald_server::metrics"
  | .server => "herald_server::server"
  | .shutdown => "herald_server::shutdown"
  | .program => "herald"

/-- A record and where it comes from. -/
structure Notice where
  component : Component
  level : Level := .info
  message : String

/-- Whether records of a level are wanted. -/
def isLogged (s : LoggingSettings) (l : Level) : Bool :=
  match Level.ofName? s.level with
  | some least => least.rank ≤ l.rank
  | none => false

def logLine (format : LogFormat) (time : String) (n : Notice) : String :=
  match format with
  | .compact => time ++ " " ++ n.level.name ++ " " ++ n.component.name ++ ": " ++ n.message
  | .json =>
    Json.renderMembers [("timestamp", .str time), ("level", .str n.level.name),
      ("fields", .obj [("message", .str n.message)]), ("target", .str n.component.name)]

/-- Why the server cannot listen. -/
inductive BindError where
  | inUse
  | notAvailable
  /-- The name of the host is not known. -/
  | unknownHost
  deriving DecidableEq

def BindError.message : BindError → String
  | .inUse => "Address already in use (os error 98)"
  | .notAvailable => "Cannot assign requested address (os error 99)"
  | .unknownHost => ReachError.unknownHost.message

/-- The report of a server that cannot listen. -/
def bindReport (config : ServerConfig) (e : BindError) : Report :=
  ⟨"Failed to bind " ++ config.bindAddress, [e.message]⟩

/-- What is told before the server listens. -/
def preparing (metrics : Bool) : List Notice :=
  ⟨.bus, .info, "event bus started"⟩ ::
    if metrics then [⟨.metrics, .info, "prometheus metrics recorder installed"⟩] else []

/-- What is told once it listens. -/
def listening : List Notice :=
  [⟨.server, .info, "herald server listening"⟩, ⟨.program, .info, "ready"⟩]

/-- What is told when it is asked to stop, by whether it stopped in time. -/
def stopping (config : ServerConfig) (inTime : Bool) : List Notice :=
  [⟨.program, .info, "shutdown requested"⟩, ⟨.shutdown, .info, "shutting down"⟩] ++
    if inTime then
      [⟨.bus, .info, "event bus shut down"⟩, ⟨.shutdown, .info, "shutdown complete"⟩,
        ⟨.program, .info, "shutdown complete"⟩]
    else
      [⟨.shutdown, .warn, (shutdownTimedOut config.shutdownMs).message⟩,
        ⟨.program, .warn, "shutdown timed out"⟩]

/-- How a run of the program ended. -/
structure Outcome where
  code : Nat
  report : Option Report := none
  /-- Lines printed. -/
  output : List String := []
  notices : List Notice := []
  /-- Whether a server came to listen, or a watcher to be subscribed. -/
  ready : Bool := false

/-- A failed run. -/
def Outcome.failed (r : Report) (notices : List Notice := []) : Outcome :=
  { code := 1, report := some r, notices }

end Fanout.CommandLine
