import Fanout.Server.Connection
import Fanout.Socket.Bytes
import Fanout.Socket.Message

/-!
The writer of a connection: it takes frames off the queue, and pings now and then. Each write is made
with the gate held. Each operation is a step that no other one can interrupt.
-/
namespace Fanout

/-- What is written. -/
inductive Outgoing where
  | text (frame : String)
  /-- A ping with the age of the connection in microseconds. -/
  | ping (micros : Nat)
  deriving DecidableEq

/-- The payload of a ping: a 64 bit integer. -/
def pingBytes (micros : Nat) : List UInt8 := bigEndian 8 (min micros Json.maxUnsigned)

/-- What a writer puts on the socket. -/
def Outgoing.toMessage : Outgoing → SocketMessage
  | .text t => .text t
  | .ping micros => .ping (pingBytes micros)

/-- Why a writer stopped. -/
inductive WriterExit where
  | closed
  | sendFailed
  | timedOut
  deriving DecidableEq

inductive WriterPhase where
  /-- Looking for something to do. -/
  | choosing
  /-- Waiting for the gate. -/
  | queued (m : Outgoing)
  /-- Writing, with the gate held, until the time given. -/
  | sending (m : Outgoing) (deadline : Nat)
  | exited (e : WriterExit)
  deriving DecidableEq

structure Writer where
  writeMs : Nat
  /-- The time between pings, if it pings. -/
  pingMs : Option Nat
  /-- When the next ping is due. -/
  nextPing : Nat
  phase : WriterPhase := .choosing
  deriving DecidableEq

/-- How a send ended. -/
inductive SendResult where
  | sent
  | failed
  | timedOut
  deriving DecidableEq

namespace Writer

def start (writeMs : Nat) (pingMs : Option Nat) (now : Nat) : Writer :=
  { writeMs, pingMs, nextPing := now + pingMs.getD 0 }

def exit? (w : Writer) : Option WriterExit :=
  match w.phase with
  | .exited e => some e
  | _ => none

/-- When the next ping is due, for a writer that waits for it. -/
def pingDue? (w : Writer) : Option Nat := w.pingMs.map fun _ => w.nextPing

/-- What to do next: leave a closed connection, else write what is queued, else ping if it is time.
A ping that is late does not put off those after it. -/
def choose (w : Writer) (c : Connection) (now : Nat) : Option (Writer × Connection) :=
  match w.phase with
  | .choosing =>
    if c.cancelled || c.queue.closed then some ({ w with phase := .exited .closed }, c)
    else match c.popFrame with
      | (some frame, c) =>
        some ({ w with phase := .queued (.text frame) },
          { c with gate := c.gate.request .writer })
      | (none, _) =>
        match w.pingMs with
        | some period =>
          if w.nextPing ≤ now then
            some ({ w with phase := .queued (.ping (c.age now * 1000)), nextPing := w.nextPing + period },
              { c with gate := c.gate.request .writer })
          else none
        | none => none
  | _ => none

/-- With the gate in hand, begins to write, unless the connection has been closed meanwhile. -/
def enter (w : Writer) (c : Connection) (now : Nat) : Option (Writer × Connection) :=
  match w.phase with
  | .queued m =>
    if c.gate.heldBy .writer then
      if c.isClosed then
        some ({ w with phase := .exited .closed }, { c with gate := c.gate.release })
      else some ({ w with phase := .sending m (now + w.writeMs) }, c)
    else none
  | _ => none

/-- A send has ended: the gate is given back, and a bad end costs the connection. -/
def finish (w : Writer) (c : Connection) (r : SendResult) : Option (Writer × Connection) :=
  match w.phase with
  | .sending _ _ =>
    let c := { c with gate := c.gate.release }
    match r with
    | .sent => some ({ w with phase := .choosing }, c)
    | .failed => some ({ w with phase := .exited .sendFailed }, c.cancel)
    | .timedOut =>
      let report := LogRecord.warn "write timed out"
        [("conn_id", c.id.text), ("timeout_ms", String.ofList (Json.natDigits w.writeMs))]
      some ({ w with phase := .exited .timedOut },
        { c.cancel with telemetry := c.telemetry.log report })
  | _ => none

/-- When the writer has something to do by the clock alone. -/
def alarm? (w : Writer) : Option Nat :=
  match w.phase with
  | .choosing => w.pingDue?
  | .sending _ deadline => some deadline
  | _ => none

end Writer

end Fanout
