import Fanout.Client.Network
import Fanout.Simulation.Gateway
import Fanout.Simulation.Session

/-! A client session and a server, joined by a network. Whatever one sends, the other reads at the same
instant. -/
namespace Fanout.Simulation

structure LinkRun where
  network : Network
  session : SessionRun
  server : GatewayRun
  /-- The socket that the session has. -/
  socket : Option Nat := none
  /-- What the session's owner was told. -/
  told : List SessionEvent := []

namespace LinkRun

def start (network : Network) (config : SessionConfig) (server : GatewayRun) : LinkRun :=
  { network, session := .start config [], server }

/-- The path and query that the session asks for. -/
def target (l : LinkRun) : String :=
  match Url.parse l.session.session.config.connectUrl with
  | .ok url => url.target
  | .error _ => ""

/-- The answer to a handshake at this time. -/
def handshake (l : LinkRun) : HandshakeOutcome :=
  match l.network.dial l.session.session.config.connectUrl with
  | .error e => .refuse e.message
  | .ok _ =>
    match (Route.ofTarget l.target).upgrade l.server.lobby with
    | .ok _ => .accept none
    | .error status => .refuse ("HTTP error: " ++ status.line)

/-- Lets the session do something, with the answers that handshakes would get now. -/
def act (l : LinkRun) (f : SessionRun → SessionRun) : LinkRun :=
  let attempts := l.session.session.config.backoff.maxAttempts + 1
  let script := List.replicate attempts { outcome := l.handshake : Handshake }
  { l with session := { f { l.session with script } with script := [] } }

/-- Gives the session a socket once it is connected, and takes it away when it is not. -/
def attend (l : LinkRun) : LinkRun :=
  match l.session.heartbeat?.isSome, l.socket with
  | true, none =>
    let id : ConnectionId := ⟨ConnectionId.head ++ l.session.session.config.sessionId⟩
    match l.server.openSocket l.target id false Json.maxUnsigned with
    | (.ok n, server) => { l with server, socket := some n }
    | (.error _, server) => { l with server }
  | false, some n => { l with server := (l.server.send n .close).2, socket := none }
  | _, _ => l

/-- Hands the server what the session sent. -/
def carryOut (l : LinkRun) : LinkRun :=
  let sent := l.session.wire.sent
  let server := match l.socket with
    | some n => sent.foldl (fun g p => (g.send n (.text p.2.text)).2) l.server
    | none => l.server
  { l with server, session := { l.session with wire := { l.session.wire with sent := [] } } }

/-- Hands the session what its socket got. -/
def carryIn (l : LinkRun) : LinkRun :=
  let (received, server) := l.server.takeReceived
  let mine := (l.socket.bind fun n => received.lookup n).getD []
  mine.foldl (fun l m => l.act fun s =>
    match m with
    | .message (.text t) => (s.push (.text t) 1).2
    | .gone => s.hangUp.2
    | .message _ => s) { l with server }

/-- Keeps what the session told its owner. -/
def listen (l : LinkRun) : LinkRun :=
  let (events, session) := l.session.takeEvents
  { l with session, told := l.told ++ events }

/-- Whether something is on its way. -/
def isBusy (l : LinkRun) : Bool :=
  !l.session.wire.sent.isEmpty || l.server.sockets.any fun s => !s.received.isEmpty

/-- Carries everything over, for at most so many rounds. -/
def exchange : (rounds : Nat) → LinkRun → LinkRun
  | 0, l => l
  | rounds + 1, l =>
    let l := l.attend.carryOut.carryIn.attend.listen
    if l.isBusy then exchange rounds l else l

/-- Rounds that requests, replies and farewells need between them. -/
def rounds : Nat := 16

def settle (l : LinkRun) : LinkRun := exchange rounds l

/-- The session's owner asks for something. -/
def request (l : LinkRun) (c : Command) : LinkRun := (l.act fun s => (s.request c).2).settle

def close (l : LinkRun) : LinkRun := (l.act SessionRun.close).settle

def publish (l : LinkRun) (e : Event) : Except BusError Unit × LinkRun :=
  let (result, server) := l.server.publish e 1
  (result, settle { l with server })

/-- Shuts the server down and says whether it was in time. -/
def shutdown (l : LinkRun) : Bool × LinkRun :=
  let (inTime, server) := l.server.shutdown
  (inTime, settle { l with server })

/-- The longest that a session takes to give up. -/
def patience (c : SessionConfig) : Nat :=
  (c.backoff.maxAttempts + 1) * (c.backoff.maxDelayMs + c.connectTimeoutMs) + 1

/-- Waits for a session that has no connection to give up. -/
def await (l : LinkRun) : LinkRun :=
  if l.socket.isSome then l
  else (l.act fun s => (s.await .closed (patience s.session.config)).2).settle

/-- Attempts after which the session gave up. -/
def gaveUp? (l : LinkRun) : Option Nat :=
  l.told.findSome? fun
    | .exhausted n => some n
    | _ => none

/-- Whether the server has granted a subscription. -/
def isSubscribed (l : LinkRun) : Bool :=
  l.told.any fun
    | .ack .subscribe _ => true
    | _ => false

end LinkRun

end Fanout.Simulation
