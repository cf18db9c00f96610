import Fanout.Server.Reply
import Fanout.Server.Shutdown

/-! A registry and its bus, used by one caller at a time, on a clock of its own. Nothing writes to the
connections. -/
namespace Fanout.Simulation

structure RegistryRun where
  registry : Registry
  now : Time.Timestamp
  clock : Nat := 0
  shuttingDown : Bool := false
  /-- What was logged outside the registry since last asked. -/
  records : List LogRecord := []

namespace RegistryRun

def start (config : RegistryConfig) (now : Time.Timestamp) : RegistryRun :=
  { registry := .new config, now }

/-- Lets the bus deliver. -/
def settle (r : RegistryRun) : RegistryRun := { r with registry := r.registry.deliver }

/-- The result of an operation that leaves the registry alone when it fails. -/
def attempt (r : RegistryRun) (x : Except ε (α × Registry)) : Except ε α × RegistryRun :=
  match x with
  | .ok (a, registry) => (.ok a, settle { r with registry })
  | .error e => (.error e, r)

/-- Registers a connection; gives its number. -/
def register (r : RegistryRun) (id : ConnectionId) (session : Option String) :
    Except RegistryError Nat × RegistryRun :=
  r.attempt ((r.registry.register id session r.clock).map fun registry =>
    (r.registry.connections.length, registry))

def subscribe (r : RegistryRun) (id : ConnectionId) (f : Filter) :
    Except RegistryError SubscribeOutcome × RegistryRun :=
  r.attempt (r.registry.subscribe r.now id f)

def unsubscribe (r : RegistryRun) (id : ConnectionId) (f : Filter) :
    Except RegistryError Bool × RegistryRun :=
  r.attempt (r.registry.unsubscribe id f)

def enqueue (r : RegistryRun) (id : ConnectionId) (frame : String) :
    Except RegistryError PushOutcome × RegistryRun :=
  r.attempt (r.registry.enqueue id frame)

def answerText (r : RegistryRun) (id : ConnectionId) (text : String) : String × RegistryRun :=
  let reply := r.registry.answerText r.now id text
  (reply.frame.encode,
    settle { r with registry := reply.registry, records := r.records ++ reply.records })

def publish (r : RegistryRun) (e : Event) : Except BusError Unit × RegistryRun :=
  let (result, registry) := r.registry.publish e
  (result, settle { r with registry })

/-- Takes all that is queued for a connection. -/
def drain (r : RegistryRun) (id : ConnectionId) : List String × RegistryRun :=
  match r.registry.connection? id with
  | none => ([], r)
  | some c =>
    (c.queue.frames, { r with
      registry := r.registry.update id fun c => { c with queue := { c.queue with frames := [] } } })

def close (r : RegistryRun) (id : ConnectionId) : Bool × RegistryRun :=
  let (existed, registry) := r.registry.close id
  (existed, settle { r with registry })

def closeAll (r : RegistryRun) : RegistryRun := settle { r with registry := r.registry.closeAll }

def shutdownBus (r : RegistryRun) : RegistryRun := { r with registry := r.registry.shutdownBus }

def advance (r : RegistryRun) (ms : Nat) : RegistryRun := { r with clock := r.clock + ms }

def signalShutdown (r : RegistryRun) : Bool × RegistryRun := (true, { r with shuttingDown := true })

/-- Gives up a graceful shutdown at the end of its time. -/
def giveUp (r : RegistryRun) (stage : ShutdownStage) (timeoutMs : Nat) : Bool × RegistryRun :=
  (false, settle { r with
    registry := stage.abandon r.registry
    records := r.records ++ [shutdownTimedOut timeoutMs] })

/-- Shuts down gracefully with tasks that take as long as given. Says whether it was in time. -/
def graceful (r : RegistryRun) (tasks : List Nat) (timeoutMs : Nat) : Bool × RegistryRun :=
  let r := { r with shuttingDown := true }
  let (stage, registry) := (ShutdownStage.start r.registry).run r.registry tasks.isEmpty
  let r := { r with registry }
  if stage = .finished then (true, r.settle)
  else if timeoutMs = 0 then r.giveUp stage timeoutMs
  else
    let r := r.settle
    let wait := tasks.foldl max 0
    if wait < timeoutMs then
      let (_, registry) := stage.run r.registry true
      (true, settle { r with registry, clock := r.clock + wait })
    else
      let (stage, registry) := stage.run r.registry false
      giveUp { r with registry, clock := r.clock + timeoutMs } stage timeoutMs

/-- Hands over all that was logged since last asked. -/
def takeRecords (r : RegistryRun) : List LogRecord × RegistryRun :=
  let (records, registry) := r.registry.takeRecords
  (r.records ++ records, { r with registry, records := [] })

end RegistryRun

end Fanout.Simulation
