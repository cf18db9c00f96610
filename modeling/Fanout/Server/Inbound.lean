import Fanout.Server.Reply
import Fanout.Server.Writer

/-! What the server does with a message from a client. Replies and events share one queue. -/
namespace Fanout

/-- The time that a ping was sent with. -/
def readMicros? (payload : List UInt8) : Option Nat :=
  if payload.length = 8 then some (ofBigEndian payload) else none

/-- The round trip that a pong tells, if it answers a ping of this connection. -/
def roundTrip? (c : Connection) (now : Nat) (payload : List UInt8) : Option Nat := do
  let sent ← readMicros? payload
  let age := c.age now * 1000
  if sent ≤ age then some (age - sent) else none

/-- The registry after a message, and whether the client stays. -/
structure Heard where
  registry : Registry
  stays : Bool := true
  records : List LogRecord := []

namespace Registry

/-- Counts a connection that was opened. -/
def recordOpened (r : Registry) : Registry :=
  { r with telemetry := r.telemetry.count "herald_ws_connections_total" }

/-- Counts a connection that has ended. -/
def recordEnded (r : Registry) : Registry :=
  let telemetry := r.telemetry.count "herald_ws_disconnections_total"
  { r with telemetry := telemetry.count "herald_ws_connection_duration_seconds_count" }

/-- Queues a reply on a connection. -/
def reply (r : Registry) (id : ConnectionId) (frame : ServerFrame) : Registry :=
  r.update id fun c => (c.enqueue frame.encode).2

def hearText (r : Registry) (now : Time.Timestamp) (id : ConnectionId) (text : String) : Heard :=
  let answer := r.answerText now id text
  { registry := answer.registry.reply id answer.frame, records := answer.records }

/-- Takes a message. Any message shows that the client is alive. -/
def hear (r : Registry) (now : Time.Timestamp) (clock : Nat) (id : ConnectionId) (m : SocketMessage) :
    Heard :=
  let r := r.update id (·.markAlive clock)
  match m with
  | .text t => r.hearText now id t
  | .binary bytes =>
    match String.fromUTF8? ⟨bytes.toArray⟩ with
    | some t => r.hearText now id t
    | none =>
      { registry := r.reply id (.error ErrorCode.invalidFrame.name "binary frame is not UTF-8") }
  | .ping _ => { registry := r }
  | .pong payload =>
    match (r.connection? id).bind (roundTrip? · clock payload) with
    | some micros =>
      let r := r.update id (·.recordLatency micros)
      { registry := { r with telemetry := r.telemetry.count "herald_ws_ping_rtt_seconds_count" } }
    | none => { registry := r }
  | .close => { registry := r, stays := false }

end Registry

end Fanout
