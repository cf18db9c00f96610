import Fanout.Bus.Basic
import Fanout.Server.Config
import Fanout.Server.Connection

/-!
The registry: live connections and the bus subscriptions they own. Operations that others may come
between are given as their uninterruptible parts, and then as a whole.
-/
namespace Fanout

structure RegistryConfig where
  maxConnections : Nat := 1024
  outboundCapacity : Nat := 100
  overflowPolicy : OverflowPolicy := .dropOldest
  /-- Firehose subscriptions of one connection. -/
  maxFirehose : Nat := 1
  /-- Subscriptions of one connection. -/
  maxSubscriptions : Nat := 64

def RegistryConfig.ofServer (c : ServerConfig) : RegistryConfig :=
  ⟨c.maxConnections, c.outboundCapacity, c.overflowPolicy, c.maxFirehose, c.maxSubscriptions⟩

inductive RegistryError where
  | unknownConnection (id : ConnectionId)
  | tooManyConnections (limit : Nat)
  | tooManySubscriptions (limit : Nat)
  | tooManyFirehoses (limit : Nat)
  | bus (e : BusError)
  deriving DecidableEq

namespace RegistryError

def message : RegistryError → String
  | .unknownConnection id => "unknown connection: " ++ id.text
  | .tooManyConnections n =>
    "connection limit of " ++ String.ofList (Json.natDigits n) ++ " reached"
  | .tooManySubscriptions n =>
    "subscription limit: at most " ++ String.ofList (Json.natDigits n) ++
      " subscriptions per connection"
  | .tooManyFirehoses n =>
    "subscription limit: at most " ++ String.ofList (Json.natDigits n) ++
      " firehose subscription(s) per connection"
  | .bus e => e.message

/-- What a client is told. -/
def code : RegistryError → ErrorCode
  | .tooManySubscriptions _ | .tooManyFirehoses _ => .subscriptionLimit
  | .tooManyConnections _ => .tooManyConnections
  | .bus (.invalidFilter _) => .invalidFilter
  | .bus (.invalidEvent _) => .invalidFrame
  | .unknownConnection _ | .bus .busClosed | .bus .queueOverflow => .unavailable

end RegistryError

inductive SubscribeOutcome where
  | created (id : SubscriptionId)
  /-- The connection had an equal filter. -/
  | existing (id : SubscriptionId)
  deriving DecidableEq

/-- Connections by identifier. -/
abbrev Connections := List (ConnectionId × Connection)

structure Registry where
  config : RegistryConfig
  /-- A subscription's handler is the connection that gets the events. -/
  bus : Bus ConnectionId
  /-- Every connection made, also those that are gone. -/
  connections : Connections := []
  /-- Those that are there, the oldest first. -/
  live : List ConnectionId := []
  telemetry : Telemetry := {}

namespace Registry

/-- An empty registry on a bus with room for so many events. -/
def new (config : RegistryConfig) (capacity : Nat := Bus.defaultCapacity) : Registry :=
  { config, bus := .new capacity }

def connection? (r : Registry) (id : ConnectionId) : Option Connection :=
  Keyed.get? id r.connections

def isLive (r : Registry) (id : ConnectionId) : Bool := r.live.contains id

/-- A live connection. -/
def get? (r : Registry) (id : ConnectionId) : Option Connection :=
  if r.isLive id then r.connection? id else none

def update (r : Registry) (id : ConnectionId) (f : Connection → Connection) : Registry :=
  { r with connections := Keyed.modify id f r.connections }

def connectionCount (r : Registry) : Nat := r.live.length

def subscriptionCount (r : Registry) : Nat :=
  r.live.foldr (fun id n => ((r.connection? id).elim 0 fun c => c.owned.length) + n) 0

def gaugeConnections (r : Registry) : Registry :=
  { r with telemetry := r.telemetry.gauge "herald_ws_connections_active" r.live.length }

/-- Admits a connection under a fresh identifier. -/
def register (r : Registry) (id : ConnectionId) (session : Option String) (clock : Nat) :
    Except RegistryError Registry :=
  if r.config.maxConnections ≤ r.live.length then
    .error (.tooManyConnections r.config.maxConnections)
  else
    .ok (gaugeConnections { r with
      connections := Keyed.put id
        (.new id session r.config.outboundCapacity r.config.overflowPolicy clock) r.connections
      live := r.live ++ [id] })

/-- Subscribes a connection that has been looked up. -/
def subscribeOn (r : Registry) (now : Time.Timestamp) (id : ConnectionId) (f : Filter) :
    Except RegistryError (SubscribeOutcome × Registry) :=
  match r.connection? id with
  | none => .error (.unknownConnection id)
  | some c =>
    if c.isClosed then .error (.unknownConnection id)
    else match c.subscriptionFor f with
      | some sub => .ok (.existing sub, r)
      | none =>
        if r.config.maxSubscriptions ≤ c.owned.length then
          .error (.tooManySubscriptions r.config.maxSubscriptions)
        else if f.isFirehose && r.config.maxFirehose ≤ c.firehoseCount then
          .error (.tooManyFirehoses r.config.maxFirehose)
        else match r.bus.subscribe now f id with
          | .error e => .error (.bus e)
          | .ok (sub, bus) =>
            .ok (.created sub,
              ({ r with bus } : Registry).update id fun c =>
                { c with owned := Keyed.put f sub c.owned })

def subscribe (r : Registry) (now : Time.Timestamp) (id : ConnectionId) (f : Filter) :
    Except RegistryError (SubscribeOutcome × Registry) :=
  if r.isLive id then r.subscribeOn now id f else .error (.unknownConnection id)

/-- Takes a filter away from a connection and gives the subscription that it had. -/
def disown (r : Registry) (id : ConnectionId) (f : Filter) : Option SubscriptionId × Registry :=
  match (r.connection? id).bind (·.subscriptionFor f) with
  | none => (none, r)
  | some sub => (some sub, r.update id fun c => { c with owned := Keyed.erase f c.owned })

def unsubscribeBus (r : Registry) (sub : SubscriptionId) : Registry :=
  { r with bus := (r.bus.unsubscribe sub).2 }

/-- Drops a connection's subscription and says whether it had one. -/
def unsubscribe (r : Registry) (id : ConnectionId) (f : Filter) :
    Except RegistryError (Bool × Registry) :=
  if r.isLive id then
    match r.disown id f with
    | (some sub, r) => .ok (true, r.unsubscribeBus sub)
    | (none, r) => .ok (false, r)
  else .error (.unknownConnection id)

/-- Removes a connection from those that are there and says whether it was one. -/
def unregister (r : Registry) (id : ConnectionId) : Bool × Registry :=
  if r.isLive id then (true, gaugeConnections { r with live := r.live.filter (· ≠ id) })
  else (false, r)

/-- The one call that closes a connection for the registry. -/
def closeCall : Nat := 0

/-- Stops a connection and asks to see its last write end. -/
def beginClose (r : Registry) (id : ConnectionId) : Registry := r.update id (·.beginClose closeCall)

/-- Sees the last write of a connection end, if it has ended. -/
def endClose (r : Registry) (id : ConnectionId) : Option Registry := do
  let c ← (← r.connection? id).endClose closeCall
  some (r.update id fun _ => c)

/-- Takes all filters away from a connection and gives the subscriptions that it had. -/
def disownAll (r : Registry) (id : ConnectionId) : List SubscriptionId × Registry :=
  match r.connection? id with
  | none => ([], r)
  | some c => (c.owned.map Prod.snd, r.update id fun c => { c with owned := [] })

/-- Drops all subscriptions of a connection. -/
def dropSubscriptions (r : Registry) (id : ConnectionId) : Registry :=
  let (subs, r) := r.disownAll id
  subs.foldl unsubscribeBus r

/-- Closes a connection on which no write is under way, and says whether it was there. -/
def close (r : Registry) (id : ConnectionId) : Bool × Registry :=
  match r.unregister id with
  | (false, r) => (false, r)
  | (true, r) =>
    let r := r.beginClose id
    (true, ((r.endClose id).getD r).dropSubscriptions id)

def closeAll (r : Registry) : Registry := r.live.foldl (fun r id => (r.close id).2) r

def enqueue (r : Registry) (id : ConnectionId) (frame : String) :
    Except RegistryError (PushOutcome × Registry) :=
  match r.get? id with
  | none => .error (.unknownConnection id)
  | some c =>
    let (outcome, c) := c.enqueue frame
    .ok (outcome, r.update id fun _ => c)

/-- The handler of a connection's subscription queues the event's frame. -/
def forward : Bus.React ConnectionId Connections := fun _ id bus conns =>
  match bus.takeFrame with
  | none => (.handled, bus, conns)
  | some (frame, bus) => (.handled, bus, Keyed.modify id (fun c => (c.enqueue frame).2) conns)

/-- Delivers all events that are queued on the bus. -/
def deliver (r : Registry) : Registry :=
  let (bus, connections) := r.bus.runLoop forward r.bus.backlog r.connections
  { r with bus, connections }

/-- Shuts the bus down after it has delivered what is queued. -/
def shutdownBus (r : Registry) : Registry :=
  let (bus, connections) := r.bus.shutdown forward r.bus.backlog r.connections
  { r with bus, connections }

/-- Publishes an event and delivers it, after those before it. -/
def publish (r : Registry) (e : Event) : Except BusError Unit × Registry :=
  match r.bus.acquire with
  | .error x => (.error x, r)
  | .ok bus =>
    match bus.place e with
    | some bus => (.ok (), { r with bus := bus.recordPublished.release })
    | none =>
      let r := deliver { r with bus := bus.awaitRoom }
      match r.bus.placeReserved e with
      | some bus => (.ok (), { r with bus := bus.recordPublished.release })
      | none => (.error .busClosed, { r with bus := r.bus.release })

/-- All samples: those of the registry, the bus and the connections. -/
def metrics (r : Registry) : Metrics :=
  (r.connections.map fun (_, c) => c.telemetry.metrics).foldl Metrics.add
    (r.telemetry.metrics.add r.bus.telemetry.metrics)

/-- Hands over all log records so far. -/
def takeRecords (r : Registry) : List LogRecord × Registry :=
  (r.telemetry.records ++ r.bus.telemetry.records ++
      r.connections.flatMap fun (_, c) => c.telemetry.records,
    { r with
      telemetry := r.telemetry.takeRecords.2
      bus := { r.bus with telemetry := r.bus.telemetry.takeRecords.2 }
      connections := r.connections.map fun (id, c) =>
        (id, { c with telemetry := c.telemetry.takeRecords.2 }) })

end Registry

end Fanout
