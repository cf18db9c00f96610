import Fanout.Client.Buffer
import Fanout.Client.Config
import Fanout.Client.Error
import Fanout.Client.State
import Fanout.Client.Wire
import Fanout.Telemetry

/-!
A client session that reconnects by itself. After each handshake it asks again for every filter wanted
and then sends what was kept meanwhile, the oldest first. Each function here is what the session does
on one occasion; times are in milliseconds.
-/
namespace Fanout

/-- What the owner of a session is told. -/
inductive SessionEvent where
  | state (s : SessionState)
  | event (e : EventFrame)
  | ack (action : SubscriptionAction) (filter : FilterSpec)
  | serverError (code message : String)
  /-- A round trip, in microseconds. -/
  | latency (micros : Nat)
  /-- The session gave up and is closed. -/
  | exhausted (attempts : Nat)

/-- What the owner of a session asks for. -/
inductive Command where
  | connect
  | send (text : String)
  | subscribe (f : Filter)
  | unsubscribe (f : Filter)
  /-- To close; `ticket` tells such requests apart. -/
  | close (ticket : Nat)
  /-- Nobody can ask for anything any more. -/
  | orphaned

/-- What a session keeps about the connection it has. -/
structure Heartbeat where
  nextPing : Nat
  /-- Pings without an answer yet, and when they were sent, the oldest first. -/
  outstanding : List (UInt64 × Nat) := []
  /-- Pings in a row that got no answer in time. -/
  missed : Nat := 0
  deriving DecidableEq

inductive SessionPhase where
  | idle
  /-- A handshake is under way until the time given. -/
  | connecting (deadline : Nat)
  | connected (h : Heartbeat)
  /-- Waiting until the time given to try again. -/
  | waiting (retryAt : Nat)
  /-- Closed, with the last word still to be said. -/
  | givingUp (attempts : Nat)
  | ended
  deriving DecidableEq

structure Session where
  config : SessionConfig
  state : SessionState := .idle
  /-- States entered since the start, the oldest first. -/
  passed : List SessionState := []
  phase : SessionPhase := .idle
  buffer : Buffer
  /-- Filters wanted, in the order asked for. -/
  desired : List Filter := []
  backoff : Backoff
  lastPing : UInt64 := 0
  /-- The last round trip, in microseconds. -/
  latencyMicros : Option Nat := none
  /-- Addresses tried, the oldest first. -/
  dialed : List String := []
  /-- Connections closed by this side. -/
  closes : Nat := 0
  /-- Requests to close that were granted. -/
  granted : List Nat := []
  /-- Events that the owner has not taken. -/
  events : List SessionEvent := []
  /-- Whether the owner still takes events. -/
  watched : Bool := true
  records : List LogRecord := []

namespace Session

/-- Events that may wait for the owner. -/
def eventCapacity : Nat := 1024

def new (config : SessionConfig) : Session :=
  { config, buffer := .new config.bufferCapacity, backoff := { config := config.backoff } }

def log (s : Session) (r : LogRecord) : Session := { s with records := s.records ++ [r] }

/-- Tells the owner something, unless too much waits already. -/
def emit (s : Session) (e : SessionEvent) : Session :=
  if s.watched && s.events.length < eventCapacity then { s with events := s.events ++ [e] } else s

def setState (s : Session) (next : SessionState) : Session :=
  if s.state = next then s
  else { s with state := next, passed := s.passed ++ [next] }.emit (.state next)

/-- Whether requests are still taken. -/
def isOpen (s : Session) : Bool :=
  match s.phase with
  | .givingUp _ | .ended => false
  | _ => true

def isConnected (s : Session) : Bool :=
  match s.phase with
  | .connected _ => true
  | _ => false

/-- Keeps a text for later. -/
def keep (s : Session) (text : String) : Session :=
  match s.buffer.push text with
  | (false, buffer) => { s with buffer }
  | (true, buffer) =>
    { s with buffer }.log (.warn "outbound buffer full, dropped oldest message"
      [("dropped", String.ofList (Json.natDigits buffer.dropped))])

/-- Adds a filter and says whether it is new. -/
def want (s : Session) (f : Filter) : Bool × Session :=
  if s.desired.contains f then (false, s) else (true, { s with desired := s.desired ++ [f] })

/-- Removes a filter and says whether it was there. -/
def unwant (s : Session) (f : Filter) : Bool × Session :=
  if s.desired.contains f then (true, { s with desired := s.desired.filter (· ≠ f) }) else (false, s)

/-- Forgets what was kept and closes; a request to close is granted. -/
def finish (s : Session) (ticket : Option Nat) : Session :=
  let s := setState { s with buffer := s.buffer.clear } .closed
  { s with phase := .ended, granted := s.granted ++ ticket.toList }

/-- Gives up for good. -/
def giveUp (s : Session) : Session :=
  let attempts := s.backoff.attempt
  let s := s.log (.warn "reconnect attempts exhausted"
    [("attempts", String.ofList (Json.natDigits attempts))])
  { s.finish none with phase := .givingUp attempts }

/-- Says the last word as soon as there is room for it. -/
def signal (s : Session) : Option Session :=
  match s.phase with
  | .givingUp attempts =>
    if s.watched && eventCapacity ≤ s.events.length then none
    else some { s.emit (.exhausted attempts) with phase := .ended }
  | _ => none

/-- After a failure: waits to try again, unless all attempts are used up. -/
def retryLater (s : Session) (now : Nat) (random : Float) : Session :=
  let s := s.setState .disconnected
  if s.backoff.exhausted then s.giveUp
  else
    let s := s.setState .reconnecting
    let (delay, backoff) := s.backoff.next random
    { s with backoff, phase := .waiting (now + delay) }

/-- Begins a handshake. -/
def dial (s : Session) (now : Nat) : Session :=
  let s := s.setState .connecting
  { s with
    phase := .connecting (now + s.config.connectTimeoutMs)
    dialed := s.dialed ++ [s.config.connectUrl] }

/-- A handshake failed. -/
def connectFailed (s : Session) (now : Nat) (random : Float) (e : TransportError) : Session :=
  (s.log (.warn "connect failed" [("error", e.message),
    ("attempt", String.ofList (Json.natDigits s.backoff.attempt))])).retryLater now random

/-- A connection was lost. -/
def lost (s : Session) (now : Nat) (random : Float) (e : TransportError) : Session :=
  (s.log (.warn "connection lost" [("error", e.message)])).retryLater now random

/-- What is said of a send that fails. -/
def sendFailure : TransportError := .send "peer gone"

/-- Asks again for filters, in order, and says whether all was sent. -/
def askAgain (w : Wire) : List Filter → Bool × Wire
  | [] => (true, w)
  | f :: rest =>
    match w.send (.frame (.subscription .subscribe f.toSpec)) with
    | (true, w) => askAgain w rest
    | (false, w) => (false, w)

/-- Sends what was kept, the oldest first, at most `n` texts, and says whether all was sent. A text
that cannot be sent is put back. -/
def flush : (n : Nat) → Buffer → Wire → Bool × Buffer × Wire
  | 0, b, w => (true, b, w)
  | n + 1, b, w =>
    match b.pop with
    | (none, b) => (true, b, w)
    | (some text, b) =>
      match w.send (.message text) with
      | (true, w) => flush n b w
      | (false, w) => (false, (b.pushFront text).2, w)

/-- A handshake succeeded: asks again for what is wanted and sends what was kept. -/
def connected (s : Session) (w : Wire) (now : Nat) (random : Float) : Session × Wire :=
  let s := setState { s with backoff := s.backoff.reset } .connected
  match askAgain w s.desired with
  | (false, w) => (s.lost now random sendFailure, w)
  | (true, w) =>
    match flush s.buffer.size s.buffer w with
    | (false, buffer, w) => (lost { s with buffer } now random sendFailure, w)
    | (true, buffer, w) =>
      ({ s with buffer, phase := .connected { nextPing := now + s.config.heartbeatMs } }, w)

/-- What a request does while there is no connection. -/
def offline (s : Session) : Command → Session
  | .connect => s
  | .send text => s.keep text
  | .subscribe f => (s.want f).2
  | .unsubscribe f => (s.unwant f).2
  | .close ticket => s.finish (some ticket)
  | .orphaned => s.finish none

/-- Sends a frame of the session; a failure costs the connection. -/
def sendFrame (s : Session) (w : Wire) (now : Nat) (random : Float) (f : ClientFrame) :
    Session × Wire :=
  match w.send (.frame f) with
  | (true, w) => (s, w)
  | (false, w) => (s.lost now random sendFailure, w)

/-- What a request does while there is a connection. -/
def online (s : Session) (w : Wire) (now : Nat) (random : Float) : Command → Session × Wire
  | .connect => (s, w)
  | .send text =>
    match w.send (.message text) with
    | (true, w) => (s, w)
    | (false, w) =>
      (lost { s with buffer := (s.buffer.pushFront text).2 } now random sendFailure, w)
  | .subscribe f =>
    match s.want f with
    | (true, s) => s.sendFrame w now random (.subscription .subscribe f.toSpec)
    | (false, s) => (s, w)
  | .unsubscribe f =>
    match s.unwant f with
    | (true, s) => s.sendFrame w now random (.subscription .unsubscribe f.toSpec)
    | (false, s) => (s, w)
  | .close ticket => (({ s with closes := s.closes + 1 }).finish (some ticket), w)
  | .orphaned => (({ s with closes := s.closes + 1 }).finish none, w)

/-- Does what is asked for. A closed session only grants requests to close. -/
def handle (s : Session) (w : Wire) (now : Nat) (random : Float) (c : Command) : Session × Wire :=
  match s.phase with
  | .idle =>
    match c with
    | .connect => (s.dial now, w)
    | c => (s.offline c, w)
  | .connecting _ | .waiting _ => (s.offline c, w)
  | .connected _ => s.online w now random c
  | .givingUp _ | .ended =>
    match c with
    | .close ticket => ({ s with granted := s.granted ++ [ticket] }, w)
    | _ => (s, w)

/-- When the oldest ping without an answer counts as missed. -/
def pongDeadline? (s : Session) (h : Heartbeat) : Option Nat :=
  h.outstanding.head?.map fun (_, sentAt) => sentAt + s.config.pongTimeoutMs

/-- The oldest ping got no answer in time. Too many of these in a row cost the connection. -/
def expirePing (s : Session) (h : Heartbeat) (now : Nat) (random : Float) : Session :=
  let h := { h with outstanding := h.outstanding.tail, missed := h.missed + 1 }
  if s.config.maxMissedPongs ≤ h.missed then
    let s := s.log (.warn "heartbeat failed, dropping connection"
      [("missed", String.ofList (Json.natDigits h.missed))])
    retryLater { s with closes := s.closes + 1 } now random
  else { s with phase := .connected h }

/-- Sends a ping under the next number. -/
def sendPing (s : Session) (h : Heartbeat) (w : Wire) (now : Nat) (random : Float) :
    Session × Wire :=
  let id := s.lastPing + 1
  let h := { h with
    nextPing := h.nextPing + s.config.heartbeatMs
    outstanding := h.outstanding ++ [(id, now)] }
  sendFrame { s with lastPing := id, phase := .connected h } w now random (.ping id)

/-- A pong came: if it answers a ping, all before is forgiven. -/
def answerPing (s : Session) (h : Heartbeat) (now : Nat) (id : UInt64) : Session :=
  match Keyed.get? id h.outstanding with
  | none => s
  | some sentAt =>
    let micros := (now - sentAt) * 1000
    emit { s with
      phase := .connected { h with outstanding := Keyed.erase id h.outstanding, missed := 0 }
      latencyMicros := some (min micros (Json.maxUnsigned - 1)) } (.latency micros)

def receiveFrame (s : Session) (h : Heartbeat) (now : Nat) : ServerFrame → Session
  | .event e => s.emit (.event e)
  | .pong id => s.answerPing h now id
  | .ack action filter => s.emit (.ack action filter)
  | .error code message =>
    -- The record carries the words of the server.
    (s.log (.warn message [("code", code)])).emit (.serverError code message)

/-- A text came. What is no frame is ignored. -/
def receive (s : Session) (h : Heartbeat) (now : Nat) (text : String) : Session :=
  match ServerFrame.parse text with
  | .ok f => s.receiveFrame h now f
  | .error e => s.log (.warn "ignoring unparseable server frame" [("error", e.message)])

/-- What is said when the server hangs up. -/
def hangUp : TransportError := .receive "server closed the connection"

/-- When the session has something to do by the clock alone. -/
def alarm? (s : Session) : Option Nat :=
  match s.phase with
  | .connecting deadline => some deadline
  | .waiting t => some t
  | .connected h => some (min h.nextPing ((s.pongDeadline? h).getD h.nextPing))
  | _ => none

/-- Does one thing for which the time has come, if there is one. -/
def tick (s : Session) (w : Wire) (now : Nat) (random : Float) : Option (Session × Wire) :=
  match s.phase with
  | .connecting deadline =>
    if deadline ≤ now then some (s.connectFailed now random .connectTimeout, w) else none
  | .waiting t => if t ≤ now then some (s.dial now, w) else none
  | .connected h =>
    if (s.pongDeadline? h).any (· ≤ now) then some (s.expirePing h now random, w)
    else if h.nextPing ≤ now then some (s.sendPing h w now random)
    else none
  | _ => none

end Session

end Fanout
