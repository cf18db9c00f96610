import Std.Internal.UV.DNS
import Std.Internal.UV.Signal
import Std.Internal.UV.TCP
import Std.Sync.Mutex
import Std.Time
import Fanout.Client.Transport
import Fanout.Simulation.Program
import Fanout.Socket.Upgrade
import Fanout.Time.Epoch

/-!
The program. It reads the command line, the settings and the environment, and carries bytes between
sockets and the server or the session; what these do is decided elsewhere.
-/
namespace Fanout.Main

open CommandLine Simulation
open Std.Internal.UV

/-- Waits for the end of an operation, which may be abandoned. -/
def await (t : Task (Option (Except IO.Error α))) : IO α := do
  match ← IO.wait t with
  | some (.ok a) => return a
  | some (.error e) => throw e
  | none => throw (IO.userError "operation abandoned")

/-- How long to wait before looking again, in milliseconds. -/
def pauseMs : UInt32 := 5

def epochNanos : IO Nat := do
  return (← Std.Time.Timestamp.now).toNanosecondsSinceUnixEpoch.val.toNat

def wallClock : IO Time.Timestamp := return .ofEpochNanos (← epochNanos)

def randomBytes (n : USize) : IO (List UInt8) := return (← IO.getRandomBytes n).toList

/-- A text that names something new. -/
def freshName (head : String) : IO String := do
  return head ++ uuidText ((← epochNanos) / 1000000) (ofBigEndian (← randomBytes 10))

def randomUnit : IO Float := return (← IO.rand 0 999999).toFloat / 1000000

def readSettings (path : String) : IO SettingsFile := do
  try
    return .ofBytes (← IO.FS.readBinFile path)
  catch
    | .noFileOrDirectory .. => return .missing
    | e => return .unreadable (toString e)

/-- The variables that settings can come from. -/
def readEnvironment : IO Environment := do
  let found ← overrides.filterMapM fun (name, _) => do
    return (← IO.getEnv name).map fun value => (name, value)
  return fun name => found.lookup name

/-- Waits for a task until a time. -/
partial def poll (t : Task α) (deadline : Nat) : IO (Option α) := do
  if ← IO.hasFinished t then return some t.get
  if deadline ≤ (← IO.monoMsNow) then return none
  IO.sleep pauseMs
  poll t deadline

/-- Does something that may take so long at most. -/
def within (ms : Nat) (x : IO α) : IO (Option (Except IO.Error α)) := do
  poll (← IO.asTask x .dedicated) ((← IO.monoMsNow) + ms)

def hostAddress (host : String) : IO Std.Net.IPAddr := do
  match Std.Net.IPv4Addr.ofString host with
  | some a => return .v4 a
  | none =>
    match (← await (← DNS.getAddrInfo host "" 0).result?).toList with
    | a :: _ => return a
    | [] => throw (IO.userError "no address for this host")

def socketAddress (host : String) (port : Nat) : IO Std.Net.SocketAddress := do
  match ← hostAddress host with
  | .v4 a => return .v4 ⟨a, port.toUInt16⟩
  | .v6 a => return .v6 ⟨a, port.toUInt16⟩

def sendBytes (s : TCP.Socket) (bytes : List UInt8) : IO Unit := do
  await (← s.send #[⟨bytes.toArray⟩]).result?

def sendText (s : TCP.Socket) (t : String) : IO Unit := do
  await (← s.send #[t.toUTF8]).result?

/-- More bytes, or nothing at the end. -/
def receiveBytes (s : TCP.Socket) : IO (Option (List UInt8)) := do
  return (← await (← s.recv? 16384).result?).map ByteArray.toList

/-- The longest head of an HTTP message. -/
def maxHead : Nat := 65536

/-- Reads a head, and gives what was read after it. -/
partial def readHead (s : TCP.Socket) (bytes : List UInt8) : IO (Option (HttpHead × List UInt8)) := do
  match splitHead bytes with
  | some (head, rest) =>
    return (String.fromUTF8? ⟨head.toArray⟩).map fun t => (.ofText t, rest)
  | none =>
    if maxHead < bytes.length then return none
    match ← receiveBytes s with
    | some more => readHead s (bytes ++ more)
    | none => return none

/-- Reads messages and hands each to `take`, until it has had enough, the socket ends or what comes makes
no sense. Says whether it did. -/
partial def readMessages (s : TCP.Socket) (limit : Nat) (take : SocketMessage → IO Bool)
    (a : Assembly) (bytes : List UInt8) : IO Bool := do
  match readFrame limit bytes with
  | .broken => return false
  | .partly =>
    match ← receiveBytes s with
    | some more => readMessages s limit take a (bytes ++ more)
    | none => return true
  | .frame f rest =>
    match a.feed f with
    | none => return false
    | some (none, a) => readMessages s limit take a rest
    | some (some m, a) => if ← take m then readMessages s limit take a rest else return true

def log (s : LoggingSettings) (notices : List Notice) : IO Unit := do
  for n in notices do
    if isLogged s n.level then
      IO.eprintln (logLine (.ofName s.format) (← wallClock).render n)

/-- A server that several threads use. -/
structure Hub where
  state : Std.Mutex GatewayRun
  startMs : Nat
  messageLimit : Nat

/-- Lets the server do something, at the present time. -/
def Hub.change (h : Hub) (f : GatewayRun → α × GatewayRun) : IO α := do
  let now := (← IO.monoMsNow) - h.startMs
  h.state.atomically do
    let g ← get
    let (a, g) := f (g.advance (now - g.clock))
    set g
    return a

def Hub.update (h : Hub) (f : GatewayRun → GatewayRun) : IO Unit := h.change fun g => ((), f g)

/-- Writes what the server has for a client. -/
partial def Hub.write (h : Hub) (s : TCP.Socket) (n : Nat) : IO Unit := do
  let (messages, more) ← h.change (·.collect n)
  if messages.isEmpty then
    if more then
      IO.sleep pauseMs
      h.write s n
    else
      await (← s.shutdown).result?
      s.cancelRecv
  else
    sendBytes s (messages.flatMap fun m => m.toFrame.encode none)
    h.write s n

/-- Reads what a client sends. -/
def Hub.read (h : Hub) (s : TCP.Socket) (n : Nat) (bytes : List UInt8) : IO Unit := do
  let sane ← try
      readMessages s (max h.messageLimit SocketMessage.maxControlSize)
        (fun m => do
          let result ← h.change (·.send n m)
          return result = .sent && m != .close) {} bytes
    catch _ => pure true
  h.update fun g => if sane then g.drop n else g.misread n

/-- Answers a request for a page. -/
def Hub.page (h : Hub) (s : TCP.Socket) (target : String) (status : HttpStatus) : IO Unit := do
  let g ← h.change fun g => (g, g)
  let (kind, body) := match Route.ofTarget target, status with
    | .health, .ok => ("application/json", g.health.page)
    | .metrics, .ok => ("text/plain; charset=utf-8", g.registry.metrics.page)
    | _, _ => ("text/plain; charset=utf-8", "")
  sendText s (pageResponse status kind body)
  await (← s.shutdown).result?

/-- Bytes that a client may leave unread. -/
def pipeCapacity : Nat := 65536

/-- Serves one client from its first request to its end. -/
def Hub.serve (h : Hub) (s : TCP.Socket) : IO Unit := do
  let some (head, rest) ← readHead s [] | return
  let some target := head.getTarget? | h.page s "" .badRequest
  match head.socketKey? with
  | none =>
    let status ← h.change fun g => ((Route.ofTarget target).status g.lobby, g)
    h.page s target status
  | some key =>
    let id : ConnectionId := ⟨← freshName ConnectionId.head⟩
    match ← h.change fun g => g.openSocket target id true pipeCapacity with
    | .error status => h.page s target status
    | .ok n =>
      sendText s (upgradeResponse key)
      let writer ← IO.asTask (try h.write s n catch _ => h.update (·.drop n)) .dedicated
      h.read s n rest
      discard (IO.wait writer)

/-- Takes clients as they come, until the server shuts down. -/
partial def Hub.accept (h : Hub) (listener : TCP.Socket) : IO Unit := do
  match ← listener.tryAccept with
  | .ok (some s) => discard (IO.asTask (h.serve s) .dedicated)
  | _ => IO.sleep pauseMs
  unless ← h.change fun g => (g.shuttingDown, g) do
    h.accept listener

/-- Goes on with a shutdown until it ends or its time is over. -/
partial def Hub.stop (h : Hub) (stage : ShutdownStage) (deadline : Nat) : IO Bool := do
  let (stage, late) ← h.change fun g =>
    let (stage, registry) := stage.run g.registry true
    ((stage, decide (deadline ≤ g.clock)), { g with registry }.settle)
  if stage = .finished then return true
  else if late then
    h.update fun g => { g with registry := stage.abandon g.registry }
    return false
  else
    IO.sleep pauseMs
    h.stop stage deadline

/-- Waits for the user to interrupt the program. -/
def interrupted : IO (Task (Option Int)) := return (← (← Signal.mk 2 false).next).result?

def bindErrorOf : IO.Error → BindError
  | .resourceBusy .. | .resourceExhausted .. | .alreadyExists .. => .inUse
  | _ => .notAvailable

def serve (logging : LoggingSettings) (config : ServerConfig) (capacity : Nat) (metrics : Bool) :
    IO UInt32 := do
  log logging (preparing metrics)
  let listener ← TCP.Socket.new
  try
    listener.bind (← socketAddress config.host config.port)
    listener.listen 1024
  catch e =>
    IO.eprintln (bindReport config (bindErrorOf e)).render
    return 1
  let h : Hub :=
    { state := ← Std.Mutex.new (.start config metrics (← wallClock) capacity)
      startMs := ← IO.monoMsNow
      messageLimit := config.maxMessageSize }
  discard (IO.asTask (h.accept listener) .dedicated)
  log logging listening
  discard (IO.wait (← interrupted))
  let (stage, clock) ← h.change fun g => ((ShutdownStage.start g.registry, g.clock), g.signalShutdown)
  let inTime ← h.stop stage (clock + config.shutdownMs)
  log logging (stopping config inTime)
  return 0

/-- Dials a server and asks it for a socket; gives it with what was read after the handshake. -/
def dial (address : String) : IO (TCP.Socket × List UInt8) := do
  let fail (e : DialError) : IO (String × Nat × String) := throw (IO.userError e.message)
  let (host, port, target) ← match Network.resolve address with
    | .ok found => pure found
    | .error e => fail e
  let s ← TCP.Socket.new
  await (← s.connect (← socketAddress host port)).result?
  let key := base64 (← randomBytes 16)
  sendText s (upgradeRequest (host ++ ":" ++ String.ofList (Json.natDigits port)) target key)
  match ← readHead s [] with
  | some (head, rest) =>
    if head.agrees key then return (s, rest)
    throw (IO.userError ("HTTP error: " ++ " ".intercalate head.start.tail))
  | none => throw (IO.userError "IO error: unexpected end of file")

/-- A session and the socket it has. -/
structure Watcher where
  session : Session
  wire : Wire := {}
  socket : Option TCP.Socket := none
  /-- What came over the socket and was not read. -/
  inbox : Std.Mutex (List PeerAct)

namespace Watcher

/-- Keeps what comes over a socket. A ping is answered at once. -/
def listen (w : Watcher) (s : TCP.Socket) (bytes : List UInt8) : IO Unit := do
  let keep (act : PeerAct) : IO Unit := w.inbox.atomically (modify (· ++ [act]))
  try
    discard (readMessages s Json.maxUnsigned (fun m => do
      if let .ping payload := m then
        sendBytes s ((SocketMessage.pong payload).toFrame.encode (some (← randomBytes 4)))
      keep (.sends m)
      return m != .close) {} bytes)
  catch _ => pure ()
  keep .vanishes

/-- Makes a handshake, and says how it went. -/
def connect (w : Watcher) (now : Nat) : IO Watcher := do
  let failed (e : TransportError) : IO Watcher := do
    return { w with session := w.session.connectFailed now (← randomUnit) e }
  match ← within w.session.config.connectTimeoutMs (dial w.session.config.connectUrl) with
  | none => failed .connectTimeout
  | some (.error e) => failed (.connect (toString e))
  | some (.ok (s, rest)) =>
    w.inbox.atomically (set ([] : List PeerAct))
    discard (IO.asTask (w.listen s rest) .dedicated)
    let (session, wire) := w.session.connected (w.wire.renew none) now (← randomUnit)
    return { w with session, wire, socket := some s }

/-- Reads what came. -/
def read (w : Watcher) (now : Nat) : IO Watcher := do
  let acts ← w.inbox.atomically do
    let acts ← get
    set ([] : List PeerAct)
    return acts
  let random ← randomUnit
  return acts.foldl (fun w act =>
    match w.session.phase, (receive [act]).1 with
    | .connected h, .text t => { w with session := w.session.receive h now t }
    | .connected _, .failed e => { w with session := w.session.lost now random e }
    | _, _ => w) w

/-- Sends what the session has sent, and hangs up if it has no connection. -/
def flush (w : Watcher) : IO Watcher := do
  let some s := w.socket | return { w with wire := { w.wire with sent := [] } }
  try
    for (_, p) in w.wire.sent do
      sendBytes s ((SocketMessage.text p.text).toFrame.encode (some (← randomBytes 4)))
    let w := { w with wire := { w.wire with sent := [] } }
    if w.session.isConnected then return w
    sendBytes s (SocketMessage.close.toFrame.encode (some (← randomBytes 4)))
    await (← s.shutdown).result?
    return { w with socket := none }
  catch _ => return { w with wire := { w.wire with sent := [] }, socket := none }

/-- Prints events; gives the attempts after which the session gave up. -/
def tell (w : Watcher) : IO (Option Nat × Watcher) := do
  let mut gaveUp := none
  for e in w.session.events do
    match e with
    | .event f => IO.println (Json.renderMembers f.members)
    | .exhausted n => gaveUp := some n
    | _ => pure ()
  return (gaveUp, { w with session := { w.session with events := [] } })

/-- Goes on until the session gives up or the user interrupts. -/
partial def run (w : Watcher) (startMs : Nat) (stop : Task (Option Int)) : IO UInt32 := do
  let now := (← IO.monoMsNow) - startMs
  let w ← if w.session.phase matches .connecting _ then w.connect now else pure w
  let w ← w.read now
  let random ← randomUnit
  let w := match w.session.tick w.wire now random with
    | some (session, wire) => { w with session, wire }
    | none => w
  let w := { w with session := w.session.signal.getD w.session }
  let (gaveUp, w) ← (← w.flush).tell
  match gaveUp with
  | some n =>
    IO.eprintln ({ headline := (SessionError.exhausted n).message : Report }).render
    return 1
  | none =>
    if ← IO.hasFinished stop then
      let (session, wire) := w.session.handle w.wire now random (.close 0)
      discard (flush { w with session, wire })
      return 0
    IO.sleep pauseMs
    w.run startMs stop

end Watcher

def watch (config : SessionConfig) (filter : Filter) : IO UInt32 := do
  let session := ((Session.new config).offline (.subscribe filter)).dial 0
  let w : Watcher := { session, inbox := ← Std.Mutex.new [] }
  w.run (← IO.monoMsNow) (← interrupted)

end Fanout.Main

open Fanout Fanout.CommandLine in
def main (args : List String) : IO UInt32 := do
  match parse args with
  | .error .help =>
    IO.println helpText
    return 0
  | .error .usage =>
    IO.eprintln helpText
    return Stop.usage.exitCode.toUInt32
  | .ok i =>
    let path := i.settingsPath (← IO.getEnv "HOME")
    let file ← Main.readSettings path
    let env ← Main.readEnvironment
    match i.plan path file env (← Main.freshName sessionHead) with
    | .error r =>
      IO.eprintln r.render
      return 1
    | .ok (.serve config capacity metrics logging) => Main.serve logging config capacity metrics
    | .ok (.watch config filter) => Main.watch config filter
