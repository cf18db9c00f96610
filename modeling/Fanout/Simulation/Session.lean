import Fanout.Client.Session
import Fanout.Simulation.Connection

/-! A client session against a scripted server, on a clock of its own. -/
namespace Fanout.Simulation

/-- How the server answers a handshake. -/
inductive HandshakeOutcome where
  /-- It accepts, and takes as many sends as given. -/
  | accept (sends : Option Nat)
  | refuse (reason : String)

structure Handshake where
  outcome : HandshakeOutcome
  delayMs : Nat := 0

/-- What the server sends. -/
inductive Inbound where
  | text (t : String)
  | failure (reason : String)

structure SessionRun where
  session : Session
  wire : Wire := {}
  clock : Nat := 0
  /-- Answers to the handshakes to come. -/
  script : List Handshake
  /-- The handshake under way and when it is answered. -/
  pending : Option (HandshakeOutcome × Nat) := none
  /-- What the server sent and the session has not read. -/
  inbound : List Inbound := []
  /-- Whether the server has a connection that it has not hung up. -/
  serverOpen : Bool := false
  /-- Whether someone can still make requests. -/
  hasHandle : Bool := true
  /-- Requests to close so far. -/
  tickets : Nat := 0

namespace SessionRun

def start (config : SessionConfig) (script : List Handshake) : SessionRun :=
  { session := .new config, script }

/-- Jitter plays no part in these runs. -/
def noRandom : Float := 0

/-- Whether the session reads what the server sends. -/
def heartbeat? (r : SessionRun) : Option Heartbeat :=
  match r.session.phase with
  | .connected h => some h
  | _ => none

/-- A session that tries to connect draws the next answer. After the script all are refused. -/
def stepDial (r : SessionRun) : Option SessionRun :=
  match r.session.phase, r.pending with
  | .connecting _, none =>
    match r.script with
    | h :: rest => some { r with script := rest, pending := some (h.outcome, r.clock + h.delayMs) }
    | [] => some { r with pending := some (.refuse "refused", r.clock) }
  | .connecting _, some _ => none
  | _, some _ => some { r with pending := none }
  | _, none => none

/-- A handshake is answered, if it is time. -/
def stepHandshake (r : SessionRun) : Option SessionRun :=
  match r.session.phase, r.pending with
  | .connecting _, some (outcome, t) =>
    if t ≤ r.clock then
      match outcome with
      | .accept sends =>
        let (session, wire) := r.session.connected (r.wire.renew sends) r.clock noRandom
        some { r with session, wire, pending := none, inbound := [], serverOpen := true }
      | .refuse reason =>
        some { r with
          session := r.session.connectFailed r.clock noRandom (.connect reason)
          pending := none }
    else none
  | _, _ => none

/-- The session does something by the clock, if it is time. -/
def stepClock (r : SessionRun) : Option SessionRun :=
  (r.session.tick r.wire r.clock noRandom).map fun (session, wire) => { r with session, wire }

/-- The session reads what the server sent, or sees that it hung up. -/
def stepInbound (r : SessionRun) : Option SessionRun := do
  let h ← r.heartbeat?
  match r.inbound with
  | .text t :: rest => some { r with session := r.session.receive h r.clock t, inbound := rest }
  | .failure reason :: rest =>
    some { r with session := r.session.lost r.clock noRandom (.receive reason), inbound := rest }
  | [] =>
    if r.serverOpen then none
    else some { r with session := r.session.lost r.clock noRandom Session.hangUp }

def stepSignal (r : SessionRun) : Option SessionRun :=
  r.session.signal.map fun session => { r with session }

def step (r : SessionRun) : Option SessionRun :=
  r.stepDial <|> r.stepHandshake <|> r.stepClock <|> r.stepInbound <|> r.stepSignal

def runSteps : (fuel : Nat) → SessionRun → SessionRun
  | 0, r => r
  | fuel + 1, r =>
    match r.step with
    | some r => runSteps fuel r
    | none => r

/-- Steps that a run may take at one instant. -/
def settleFuel (r : SessionRun) : Nat :=
  r.inbound.length + 4 * (r.session.config.backoff.maxAttempts + 2) * (r.script.length + 1) + 10

/-- Lets everything happen that can happen now. -/
def settle (r : SessionRun) : SessionRun := runSteps r.settleFuel r

/-- When the clock next makes something happen. -/
def alarm? (r : SessionRun) : Option Nat := earliest [r.session.alarm?, r.pending.map Prod.snd]

/-- Moves the clock to `target`, stopping at each alarm on the way. -/
def runUntil (target : Nat) : (fuel : Nat) → SessionRun → SessionRun
  | 0, r => r
  | fuel + 1, r =>
    match r.alarm? with
    | some t =>
      if t ≤ target then runUntil target fuel (settle { r with clock := max t r.clock })
      else settle { r with clock := target }
    | none => settle { r with clock := target }

def advance (r : SessionRun) (ms : Nat) : SessionRun := runUntil (r.clock + ms) (ms + 2) r

/-- Whether a wait for `wanted` is over. -/
def reached (r : SessionRun) (wanted : SessionState) : Bool :=
  r.session.state == wanted || r.session.state.isTerminal

/-- Waits before `target` for a state that lasts. What happens at `target` comes too late. -/
def awaitUntil (wanted : SessionState) (target : Nat) : (fuel : Nat) → SessionRun →
    Option SessionState × SessionRun
  | 0, r => (none, r)
  | fuel + 1, r =>
    if r.reached wanted then (some r.session.state, r)
    else match r.alarm? with
      | some t =>
        if t < target then awaitUntil wanted target fuel (settle { r with clock := max t r.clock })
        else (none, settle { r with clock := target })
      | none => (none, settle { r with clock := target })

/-- Waits at most so long for a state, or for the end. -/
def await (r : SessionRun) (wanted : SessionState) (ms : Nat) : Option SessionState × SessionRun :=
  awaitUntil wanted (r.clock + ms) (ms + 2) r

/-- Makes a request of the session. -/
def request (r : SessionRun) (c : Command) : Except SessionError Unit × SessionRun :=
  if r.session.isOpen then
    let (session, wire) := r.session.handle r.wire r.clock noRandom c
    (.ok (), settle { r with session, wire })
  else (.error .closed, r)

def close (r : SessionRun) : SessionRun :=
  { (r.request (.close r.tickets)).2 with tickets := r.tickets + 1 }

/-- Nobody can make requests any more. -/
def dropHandle (r : SessionRun) : SessionRun :=
  { (r.request .orphaned).2 with hasHandle := false }

/-- Nobody takes events any more. -/
def dropEvents (r : SessionRun) : SessionRun :=
  settle { r with session := { r.session with events := [], watched := false } }

/-- Whether what the server sends can still be read. -/
def reachable (r : SessionRun) : Bool := r.serverOpen && r.heartbeat?.isSome

/-- The server sends something, as many times as given. Says whether that was possible. -/
def push (r : SessionRun) (m : Inbound) (times : Nat) : Bool × SessionRun :=
  if r.reachable then
    (true, settle { r with inbound := r.inbound ++ List.replicate times m })
  else (false, r)

/-- The server hangs up. Says whether it had a connection. -/
def hangUp (r : SessionRun) : Bool × SessionRun :=
  (r.serverOpen, settle { r with serverOpen := false })

/-- From now on only so many sends succeed. -/
def limitSends (r : SessionRun) (n : Nat) : SessionRun :=
  { r with wire := { r.wire with accepts := some n } }

/-- What a run did since last asked. -/
structure SessionOutput where
  events : List SessionEvent
  sent : List (Nat × Payload)
  dialed : List String
  records : List LogRecord

/-- Takes the events that wait, and those that then find room. -/
def takeEvents (r : SessionRun) : List SessionEvent × SessionRun :=
  let first := r.session.events
  let r := settle { r with session := { r.session with events := [] } }
  (first ++ r.session.events, { r with session := { r.session with events := [] } })

/-- Hands over what happened since last asked. Events are left where they are if `hold`. -/
def takeOutput (r : SessionRun) (hold : Bool) : SessionOutput × SessionRun :=
  let (events, r) := if hold then ([], r) else r.takeEvents
  (⟨events, r.wire.sent, r.session.dialed, r.session.records⟩, { r with
    wire := { r.wire with sent := [] }
    session := { r.session with dialed := [], records := [] } })

end SessionRun

end Fanout.Simulation
