import Fanout.Filter
import Fanout.Ids
import Fanout.Server.Gate
import Fanout.Server.Queue
import Fanout.Telemetry

/-! A client's connection as the server keeps it. Times are in milliseconds. -/
namespace Fanout

/-- Who may hold the gate of a connection, which a write needs. -/
inductive GateParty where
  | writer
  /-- A call to close the connection. -/
  | closer (n : Nat)
  | outsider
  deriving DecidableEq

structure Connection where
  id : ConnectionId
  /-- What the client calls its session. -/
  session : Option String := none
  connectedAt : Nat
  /-- When something last came from the client. -/
  lastActivity : Nat
  /-- The last round trip measured, in microseconds. -/
  latencyMicros : Option Nat := none
  queue : OutboundQueue
  /-- The bus subscription of each filter. -/
  owned : List (Filter × SubscriptionId) := []
  cancelled : Bool := false
  gate : Gate GateParty := {}
  telemetry : Telemetry := {}

namespace Connection

def new (id : ConnectionId) (session : Option String) (capacity : Nat) (policy : OverflowPolicy)
    (now : Nat) : Connection :=
  { id, session, connectedAt := now, lastActivity := now, queue := .new capacity policy }

def cancel (c : Connection) : Connection := { c with cancelled := true }

/-- Whether it has been closed or cancelled. -/
def isClosed (c : Connection) : Bool := c.cancelled

def stateName (c : Connection) : String := if c.cancelled then "disconnected" else "connected"

/-- Queues a frame. An overflow is counted, and may cost the connection. -/
def enqueue (c : Connection) (frame : String) : PushOutcome × Connection :=
  let (outcome, queue) := c.queue.push frame
  let c := { c with queue }
  (outcome, match outcome with
    | .queued | .closed => c
    | .droppedOldest =>
      { c with telemetry :=
          c.telemetry.count "herald_outbound_overflow_total\x7bpolicy=\"drop_oldest\"\x7d" }
    | .overflow =>
      { c with
        cancelled := true
        telemetry :=
          (c.telemetry.count "herald_outbound_overflow_total\x7bpolicy=\"disconnect\"\x7d").log
            (.warn "outbound queue overflow, disconnecting"
              [("conn_id", c.id.text), ("capacity", String.ofList (Json.natDigits queue.capacity))]) })

/-- Takes the oldest frame, if there is one. -/
def popFrame (c : Connection) : Option String × Connection :=
  let (frame, queue) := c.queue.pop
  (frame, { c with queue })

def markAlive (c : Connection) (now : Nat) : Connection := { c with lastActivity := now }

def idleFor (c : Connection) (now : Nat) : Nat := now - c.lastActivity

def age (c : Connection) (now : Nat) : Nat := now - c.connectedAt

/-- The longest round trip that is kept, in microseconds. -/
def maxLatencyMicros : Nat := Json.maxUnsigned - 1

def recordLatency (c : Connection) (micros : Nat) : Connection :=
  { c with latencyMicros := some (min micros maxLatencyMicros) }

def subscriptionFor (c : Connection) (f : Filter) : Option SubscriptionId := Keyed.get? f c.owned

def filters (c : Connection) : List Filter := Keyed.keys c.owned

def firehoseCount (c : Connection) : Nat := (c.filters.filter Filter.isFirehose).length

/-- Drops what is queued, stops the writer and asks for the gate, so as to see a write end that has
begun. -/
def beginClose (c : Connection) (n : Nat) : Connection :=
  { c with queue := c.queue.close, cancelled := true, gate := c.gate.request (.closer n) }

/-- A call to close returns once it has had the gate. -/
def endClose (c : Connection) (n : Nat) : Option Connection :=
  if c.gate.heldBy (.closer n) then some { c with gate := c.gate.release } else none

/-- A call to close is given up. -/
def abandonClose (c : Connection) (n : Nat) : Connection :=
  { c with gate := c.gate.withdraw (.closer n) }

end Connection

end Fanout
