import Fanout.CommandLine.Plan
import Fanout.CommandLine.Service
import Fanout.Simulation.Link

/-! The program run from its command line to its end, on a machine and a network given. -/
namespace Fanout.Simulation

open CommandLine

/-- What the program finds where it runs. -/
structure Machine where
  home : Option String
  env : Environment
  /-- The settings file at a path. -/
  file : String → SettingsFile
  /-- The outcome of listening at a host and a port. -/
  bind : String → Nat → Except BindError Unit
  network : Network
  /-- The server that is reached, if one can be. -/
  server : GatewayRun
  sessionId : String

/-- Whether a machine has an address whatever its network: its own, or any. -/
def isOwnHost (host : String) : Bool :=
  host == "localhost" || host == "0.0.0.0" ||
    (Network.isNumericHost host && (host.splitOn ".").head? == some "127")

/-- The outcome of listening on a machine without a network on which these ports are in use. -/
def bindAlone (busy : List Nat) (host : String) (port : Nat) : Except BindError Unit :=
  if isOwnHost host then if busy.contains port then .error .inUse else .ok ()
  else .error (if Network.isNumericHost host then .notAvailable else .unknownHost)

/-- The lines that a watcher prints. -/
def printed (events : List SessionEvent) : List String :=
  events.filterMap fun
    | .event e => some (Json.renderMembers e.members)
    | _ => none

/-- How watching ended, by whether the session gave up. -/
def watchOutcome (l : LinkRun) : Outcome :=
  let report := l.gaveUp?.map fun n => ({ headline := (SessionError.exhausted n).message } : Report)
  { code := if report.isSome then 1 else 0, report, output := printed l.told }

/-- Watches until the session gives up or the user interrupts. What others do meanwhile is `around`. -/
def watch (m : Machine) (config : SessionConfig) (filter : Filter) (around : LinkRun → LinkRun) :
    Outcome :=
  let l := ((LinkRun.start m.network config m.server).request (.subscribe filter)).request .connect
  let l := (around l).await
  { watchOutcome l with ready := l.isSubscribed }

/-- Serves until the user interrupts. -/
def serve (m : Machine) (config : ServerConfig) (metrics : Bool) : Outcome :=
  match m.bind config.host config.port with
  | .error e => .failed (bindReport config e) (preparing metrics)
  | .ok _ =>
    let (inTime, _) := (GatewayRun.start config metrics m.server.now).shutdown
    { code := 0, ready := true, notices := preparing metrics ++ listening ++ stopping config inTime }

/-- Runs the program with these words. -/
def run (m : Machine) (words : List String) (around : LinkRun → LinkRun) : Outcome :=
  match parse words with
  | .error stop => { code := stop.exitCode }
  | .ok i =>
    let path := i.settingsPath m.home
    match i.plan path (m.file path) m.env m.sessionId with
    | .error r => .failed r
    | .ok (.serve config _ metrics _) => serve m config metrics
    | .ok (.watch config filter) => watch m config filter around

end Fanout.Simulation
