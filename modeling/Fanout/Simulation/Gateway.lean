import Fanout.Server.Inbound
import Fanout.Server.Route
import Fanout.Server.Shutdown
import Fanout.Simulation.Connection
import Fanout.Simulation.Pipe

/-! The whole server with clients on sockets in memory, on a clock of its own. -/
namespace Fanout.Simulation

/-- What the server is doing for a socket. -/
inductive SocketTask where
  /-- Answering the client. -/
  | serving
  /-- Waiting to see the last write end. -/
  | closing
  /-- Waiting for the writer and the watchdog. -/
  | joining
  /-- Turning the client away. -/
  | refusing
  | ended
  deriving DecidableEq

/-- What a client reads. -/
inductive Received where
  | message (m : SocketMessage)
  /-- The socket is gone. -/
  | gone
  deriving DecidableEq

/-- A socket with both its ends. -/
structure Socket where
  connection : ConnectionId
  task : SocketTask
  writer : Writer
  watchdog : Watchdog
  /-- Until when the writer tries to say goodbye, once it does. -/
  goodbye : Option Nat := none
  writerEnded : Bool := false
  toClient : Pipe
  toServer : List SocketMessage := []
  /-- The client does not read. -/
  muted : Bool := false
  /-- The client has said goodbye. -/
  leaving : Bool := false
  /-- The client's end is gone. -/
  dropped : Bool := false
  sawEnd : Bool := false
  /-- What the client read since last asked. -/
  received : List Received := []

namespace Socket

/-- A socket together with the registry that its tasks share. -/
abbrev Step := Option (Socket × Registry)

/-- Sends to the client, if there is one. -/
def send (s : Socket) (m : SocketMessage) : Socket :=
  if s.dropped then s else { s with toClient := s.toClient.write m }

/-- How a write ends at this time, if it does. -/
def sendResult? (s : Socket) (deadline clock : Nat) : Option SendResult :=
  if s.dropped then some .failed
  else if s.toClient.isFlushed then some .sent
  else if deadline ≤ clock then some .timedOut
  else none

/-- A writer that stopped because the connection was closed says goodbye; any other is done. -/
def stepGoodbye (s : Socket) (exit : WriterExit) (clock : Nat) : Option Socket :=
  if s.writerEnded then none
  else if exit = .closed then
    match s.goodbye with
    | none => some { s.send .close with goodbye := some (clock + s.writer.writeMs) }
    | some deadline => (s.sendResult? deadline clock).map fun _ => { s with writerEnded := true }
  else some { s with writerEnded := true }

def stepWriter (s : Socket) (r : Registry) (clock : Nat) : Step := do
  let c ← r.connection? s.connection
  let put (s : Socket) (p : Writer × Connection) : Socket × Registry :=
    ({ s with writer := p.1 }, r.update s.connection fun _ => p.2)
  match s.writer.phase with
  | .choosing => (s.writer.choose c clock).map (put s)
  | .queued m =>
    let (w, c) ← s.writer.enter c clock
    some (put (if w.exit?.isNone then s.send m.toMessage else s) (w, c))
  | .sending _ deadline => (s.writer.finish c (← s.sendResult? deadline clock)).map (put s)
  | .exited exit => (s.stepGoodbye exit clock).map fun s => (s, r)

/-- A watchdog that finds the client silent cancels the connection. -/
def stepWatchdog (s : Socket) (r : Registry) (clock : Nat) : Step := do
  let w ← s.watchdog.step (← r.connection? s.connection) clock
  some ({ s with watchdog := w },
    if w.outcome = some .idle then r.update s.connection (·.cancel) else r)

/-- Stops serving and closes the connection, unless someone else is closing it. -/
def leave (s : Socket) (r : Registry) : Socket × Registry :=
  match r.unregister s.connection with
  | (true, r) => ({ s with task := .closing }, r.beginClose s.connection)
  | (false, r) => ({ s with task := .joining }, r)

/-- Takes a message from the client. A ping is answered at once. -/
def hear (s : Socket) (r : Registry) (now : Time.Timestamp) (clock limit : Nat) (m : SocketMessage) :
    Socket × Registry :=
  if m.isAllowed limit then
    let s := match m with
      | .ping payload => s.send (.pong payload)
      | _ => s
    let heard := r.hear now clock s.connection m
    if heard.stays then (s, heard.registry) else s.leave heard.registry
  else s.leave r

def stepTask (s : Socket) (r : Registry) (now : Time.Timestamp) (clock limit : Nat) : Step :=
  match s.task with
  | .serving =>
    if (r.connection? s.connection).all (·.isClosed) then some (s.leave r)
    else match s.toServer with
      | m :: rest => some (hear { s with toServer := rest } r now clock limit m)
      | [] => if s.dropped then some (s.leave r) else none
  | .closing =>
    (r.endClose s.connection).map fun r =>
      ({ s with task := .joining }, r.dropSubscriptions s.connection)
  | .joining =>
    if s.writerEnded && s.watchdog.outcome.isSome then
      some ({ s with task := .ended, toClient := s.toClient.cut }, r.recordEnded)
    else none
  | .refusing =>
    if s.dropped || s.toClient.isFlushed then some ({ s with task := .ended }, r) else none
  | .ended => none

/-- What a client sends back for what it reads. -/
def echo : SocketMessage → Option SocketMessage
  | .ping payload => some (.pong payload)
  | _ => none

/-- A client that reads takes all there is, answers pings and sees the end of the socket. One that has
said goodbye does not look at the server's. -/
def stepClient (s : Socket) : Option Socket :=
  if s.dropped || s.muted then none
  else if !s.toClient.isEmpty then
    let (messages, toClient) := s.toClient.readAll
    let seen := if s.leaving then messages.filter (· ≠ .close) else messages
    let answers := if s.leaving then [] else messages.filterMap echo
    some { s with
      toClient
      received := s.received ++ seen.map .message
      toServer := s.toServer ++ answers }
  else if s.task = .ended && !s.sawEnd then
    some { s with sawEnd := true, received := s.received ++ [.gone] }
  else none

/-- When the clock next makes something happen on this socket. -/
def alarm? (s : Socket) : Option Nat :=
  if s.task = .ended || s.task = .refusing then none
  else earliest [s.writer.alarm?, s.watchdog.alarm?, if s.writerEnded then none else s.goodbye]

/-- Pings that are due or past due. -/
def latePings (s : Socket) (clock : Nat) : Nat := clock + 1 - s.writer.nextPing

end Socket

structure GatewayRun where
  config : ServerConfig
  registry : Registry
  now : Time.Timestamp
  clock : Nat := 0
  sockets : List Socket := []
  hasMetrics : Bool := false
  shuttingDown : Bool := false

namespace GatewayRun

def start (config : ServerConfig) (hasMetrics : Bool) (now : Time.Timestamp)
    (capacity : Nat := Bus.defaultCapacity) : GatewayRun :=
  { config, registry := .new (.ofServer config) capacity, now, hasMetrics }

def setSocket (g : GatewayRun) (n : Nat) (p : Socket × Registry) : GatewayRun :=
  { g with sockets := g.sockets.set n p.1, registry := p.2 }

/-- The first socket on which `f` can do something. -/
def firstStep (g : GatewayRun) (f : Socket → Socket.Step) : Option GatewayRun :=
  g.sockets.zipIdx.findSome? fun (s, n) => (f s).map (g.setSocket n)

def step (g : GatewayRun) : Option GatewayRun :=
  g.firstStep (fun s => s.stepWriter g.registry g.clock)
    <|> g.firstStep (fun s => s.stepWatchdog g.registry g.clock)
    <|> g.firstStep (fun s => s.stepTask g.registry g.now g.clock g.config.maxMessageSize)
    <|> g.firstStep (fun s => s.stepClient.map fun s => (s, g.registry))

/-- Steps that a run may take at one instant: a few for each frame, message and ping, and for the end
of each socket. -/
def settleFuel (g : GatewayRun) : Nat :=
  g.sockets.foldr (fun s n =>
    let queued := (g.registry.connection? s.connection).elim 0 fun c => c.queue.size
    16 * (queued + s.toServer.length + s.latePings g.clock + s.toClient.arrived.length +
      s.toClient.outgoing.length + 2) + n) 0

def runSteps : (fuel : Nat) → GatewayRun → GatewayRun
  | 0, g => g
  | fuel + 1, g =>
    match g.step with
    | some g => runSteps fuel g
    | none => g

/-- Lets everything happen that can happen now. -/
def settle (g : GatewayRun) : GatewayRun :=
  let g := { g with registry := g.registry.deliver }
  runSteps g.settleFuel g

/-- When the clock next makes something happen. -/
def alarm? (g : GatewayRun) : Option Nat := earliest (g.sockets.map Socket.alarm?)

/-- Moves the clock to `target`, stopping at each alarm on the way. -/
def runUntil (target : Nat) : (fuel : Nat) → GatewayRun → GatewayRun
  | 0, g => g
  | fuel + 1, g =>
    match g.alarm? with
    | some t =>
      if t ≤ target then runUntil target fuel (settle { g with clock := max t g.clock })
      else settle { g with clock := target }
    | none => settle { g with clock := target }

def advance (g : GatewayRun) (ms : Nat) : GatewayRun := runUntil (g.clock + ms) (2 * ms + 2) g

def lobby (g : GatewayRun) : Lobby := ⟨g.shuttingDown, g.hasMetrics⟩

/-- Asks for a socket under a fresh identifier; gives the client's number or a status. A server that is
full tells the client so and hangs up. -/
def openSocket (g : GatewayRun) (target : String) (id : ConnectionId) (muted : Bool) (capacity : Nat) :
    Except HttpStatus Nat × GatewayRun :=
  match (Route.ofTarget target).upgrade g.lobby with
  | .error status => (.error status, g)
  | .ok session =>
    let socket : Socket :=
      { connection := id
        task := .serving
        writer := .start g.config.writeMs (some g.config.heartbeatMs) g.clock
        watchdog := .start g.config.heartbeatMs g.config.idleMs g.clock
        toClient := { capacity }
        muted }
    let (socket, registry) := match g.registry.register id session g.clock with
      | .ok registry => (socket, registry.recordOpened)
      | .error e =>
        let told := (ServerFrame.error e.code.name e.message).encode
        ((Socket.send { socket with task := .refusing } (.text told)).send .close, g.registry)
    (.ok g.sockets.length, settle { g with sockets := g.sockets ++ [socket], registry })

/-- How sending from a client went. -/
inductive ClientSend where
  | sent
  /-- The socket is closed or gone. -/
  | failed
  | noClient
  deriving DecidableEq

def socket? (g : GatewayRun) (n : Nat) : Option Socket :=
  g.sockets[n]?.filter fun s => !s.dropped

def update (g : GatewayRun) (n : Nat) (f : Socket → Socket) : GatewayRun :=
  settle { g with sockets := g.sockets.modify n f }

/-- A client sends a message. -/
def send (g : GatewayRun) (n : Nat) (m : SocketMessage) : ClientSend × GatewayRun :=
  match g.socket? n with
  | none => (.noClient, g)
  | some s =>
    if s.leaving || s.task = .ended then (.failed, g)
    else (.sent, g.update n fun s =>
      { s with toServer := s.toServer ++ [m], leaving := m = .close })

/-- A client's end of the socket vanishes. -/
def drop (g : GatewayRun) (n : Nat) : GatewayRun :=
  g.update n fun s => { s with dropped := true, toClient := s.toClient.cut }

/-- What comes from a client makes no sense, and the server leaves it. -/
def misread (g : GatewayRun) (n : Nat) : GatewayRun :=
  match g.sockets[n]? with
  | some s => if s.task = .serving then settle (g.setSocket n (s.leave g.registry)) else g
  | none => g

/-- Takes what was sent to a client, on its behalf; says whether more may follow. -/
def collect (g : GatewayRun) (n : Nat) : (List SocketMessage × Bool) × GatewayRun :=
  match g.sockets[n]? with
  | some s =>
    let (messages, toClient) := s.toClient.readAll
    ((messages, s.task ≠ .ended), g.update n fun s => { s with toClient })
  | none => (([], false), g)

/-- A client stops reading, or reads again. -/
def mute (g : GatewayRun) (n : Nat) (muted : Bool) : GatewayRun :=
  g.update n fun s => { s with muted }

def publishMany (e : Event) : Nat → Registry → Except BusError Unit × Registry
  | 0, r => (.ok (), r)
  | n + 1, r =>
    match r.publish e with
    | (.ok (), r) => publishMany e n r
    | (.error x, r) => (.error x, r)

/-- Publishes an event as often as given, before anything is written. -/
def publish (g : GatewayRun) (e : Event) (times : Nat) : Except BusError Unit × GatewayRun :=
  let (result, registry) := publishMany e times g.registry
  (result, settle { g with registry })

def health (g : GatewayRun) : Health := .check g.registry g.clock g.shuttingDown

def signalShutdown (g : GatewayRun) : GatewayRun := { g with shuttingDown := true }

/-- Goes on with a shutdown until it ends or its time is over, and says whether it ended. -/
def shutdownUntil (deadline : Nat) : (fuel : Nat) → ShutdownStage → GatewayRun → Bool × GatewayRun
  | 0, _, g => (false, g)
  | fuel + 1, stage, g =>
    let (stage, registry) := stage.run g.registry true
    let g := { g with registry }
    if stage = .finished then (true, g.settle)
    else if deadline ≤ g.clock then
      (false, settle { g with registry := stage.abandon g.registry })
    else
      let g := g.settle
      match stage.step g.registry true with
      | some (stage, registry) => shutdownUntil deadline fuel stage { g with registry }
      | none =>
        let next := (g.alarm?.getD deadline)
        if next < deadline then
          shutdownUntil deadline fuel stage (settle { g with clock := max next g.clock })
        else shutdownUntil deadline fuel stage { g with clock := deadline }

/-- Shuts down gracefully. Says whether it was in time. -/
def shutdown (g : GatewayRun) : Bool × GatewayRun :=
  let fuel := 4 * (g.config.shutdownMs + g.sockets.length + 2)
  shutdownUntil (g.clock + g.config.shutdownMs) fuel (.start g.registry) g.signalShutdown

/-- Hands over what each client read since last asked, by its number. -/
def takeReceived (g : GatewayRun) : List (Nat × List Received) × GatewayRun :=
  ((g.sockets.zipIdx.map fun (s, n) => (n, s.received)).filter fun p => !p.2.isEmpty,
    { g with sockets := g.sockets.map fun s => { s with received := [] } })

end GatewayRun

end Fanout.Simulation
