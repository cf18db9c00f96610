import Fanout.Server.Watchdog
import Fanout.Server.Writer

/-! One connection with its writer, its watchdog and calls to close it, on a clock of its own. -/
namespace Fanout.Simulation

/-- How the far end takes what is written. -/
inductive SinkMode where
  | accepting
  | failing
  /-- Sends wait. -/
  | stuck
  deriving DecidableEq

/-- The earliest of the alarms, if any is set. -/
def earliest (alarms : List (Option Nat)) : Option Nat := (alarms.filterMap id).min?

structure ConnectionRun where
  connection : Connection
  clock : Nat := 0
  writer : Option Writer := none
  sink : SinkMode := .accepting
  /-- What the far end took since last asked. -/
  written : List Outgoing := []
  watchdog : Option Watchdog := none
  /-- Calls to close, numbered in order, that have not returned. -/
  closing : List Nat := []
  /-- Calls to close so far. -/
  closeCalls : Nat := 0

namespace ConnectionRun

def start (id : String) (session : Option String) (capacity : Nat) (policy : OverflowPolicy) :
    ConnectionRun :=
  { connection := .new ⟨id⟩ session capacity policy 0 }

/-- What the far end makes of a send. -/
def sendResult? (r : ConnectionRun) (deadline : Nat) : Option SendResult :=
  match r.sink with
  | .accepting => some .sent
  | .failing => some .failed
  | .stuck => if deadline ≤ r.clock then some .timedOut else none

/-- One step of the writer, if it can do something. -/
def stepWriter (r : ConnectionRun) : Option ConnectionRun := do
  let w ← r.writer
  match w.phase with
  | .choosing =>
    let (w, c) ← w.choose r.connection r.clock
    some { r with writer := some w, connection := c }
  | .queued _ =>
    let (w, c) ← w.enter r.connection r.clock
    some { r with writer := some w, connection := c }
  | .sending m deadline =>
    let result ← r.sendResult? deadline
    let (w, c) ← w.finish r.connection result
    some { r with
      writer := some w
      connection := c
      written := if result = .sent then r.written ++ [m] else r.written }
  | .exited _ => none

/-- One step of the watchdog, if it can do something. -/
def stepWatchdog (r : ConnectionRun) : Option ConnectionRun := do
  let w ← (← r.watchdog).step r.connection r.clock
  some { r with watchdog := some w }

/-- A call to close returns, if one can. -/
def stepClosing (r : ConnectionRun) : Option ConnectionRun :=
  r.closing.findSome? fun n =>
    (r.connection.endClose n).map fun c =>
      { r with connection := c, closing := r.closing.filter (· ≠ n) }

def step (r : ConnectionRun) : Option ConnectionRun :=
  r.stepWriter <|> r.stepWatchdog <|> r.stepClosing

/-- Steps that a run may take at one instant: three for each frame and each ping that is late, and
one for each call and task that ends. -/
def settleFuel (r : ConnectionRun) : Nat :=
  let latePings := r.writer.elim 0 fun w => r.clock - w.nextPing + 1
  3 * (r.connection.queue.size + latePings) + r.closing.length + 10

def runSteps : (fuel : Nat) → ConnectionRun → ConnectionRun
  | 0, r => r
  | fuel + 1, r =>
    match r.step with
    | some r => runSteps fuel r
    | none => r

/-- Lets everything happen that can happen now. -/
def settle (r : ConnectionRun) : ConnectionRun := runSteps r.settleFuel r

/-- When the clock next makes something happen. -/
def alarm? (r : ConnectionRun) : Option Nat :=
  earliest [r.writer.bind Writer.alarm?, r.watchdog.bind Watchdog.alarm?]

/-- Moves the clock to `target`, stopping at each alarm on the way, while `go` holds. -/
def runUntil (go : ConnectionRun → Bool) (target : Nat) : (fuel : Nat) → ConnectionRun → ConnectionRun
  | 0, r => r
  | fuel + 1, r =>
    if go r then
      match r.alarm? with
      | some t =>
        if t ≤ target then runUntil go target fuel (settle { r with clock := max t r.clock })
        else settle { r with clock := target }
      | none => settle { r with clock := target }
    else r

def advance (r : ConnectionRun) (ms : Nat) : ConnectionRun :=
  runUntil (fun _ => true) (r.clock + ms) (2 * ms + 2) r

/-- The longest that a run waits for its watchdog. -/
def patienceMs : Nat := 24 * 60 * 60 * 1000

/-- Waits for the watchdog to end, and takes what it found. Nothing if there is none; no outcome
when patience runs out. -/
def awaitWatchdog (r : ConnectionRun) : Option (Option IdleOutcome) × ConnectionRun :=
  if r.watchdog.isNone then (none, r)
  else
    let r := runUntil (fun r => (r.watchdog.bind Watchdog.outcome).isNone) (r.clock + patienceMs)
      (2 * patienceMs + 2) r
    (some (r.watchdog.bind Watchdog.outcome), { r with watchdog := none })

def enqueue (r : ConnectionRun) (frame : String) : PushOutcome × ConnectionRun :=
  let (outcome, c) := r.connection.enqueue frame
  (outcome, settle { r with connection := c })

/-- Takes a frame if one is there or will never be. -/
def pop (r : ConnectionRun) : Option (Option String) × ConnectionRun :=
  if r.connection.queue.closed then (some none, r)
  else match r.connection.popFrame with
    | (some frame, c) => (some (some frame), { r with connection := c })
    | (none, _) => (none, r)

def update (r : ConnectionRun) (f : Connection → Connection) : ConnectionRun :=
  settle { r with connection := f r.connection }

/-- Someone else takes the gate if it is free. -/
def takeGate (r : ConnectionRun) : Bool × ConnectionRun :=
  if r.connection.gate.holder.isNone then
    (true, r.update fun c => { c with gate := c.gate.request .outsider })
  else (false, r)

/-- Someone else gives the gate back, if they have it. -/
def releaseGate (r : ConnectionRun) : Bool × ConnectionRun :=
  if r.connection.gate.heldBy .outsider then
    (true, r.update fun c => { c with gate := c.gate.release })
  else (false, r)

def close (r : ConnectionRun) : ConnectionRun :=
  settle { r with
    connection := r.connection.beginClose r.closeCalls
    closing := r.closing ++ [r.closeCalls]
    closeCalls := r.closeCalls + 1 }

/-- Whether the last call to close has returned. -/
def closeDone? (r : ConnectionRun) : Option Bool :=
  if r.closeCalls = 0 then none else some (!r.closing.contains (r.closeCalls - 1))

def startWriter (r : ConnectionRun) (writeMs : Nat) (pingMs : Option Nat) : ConnectionRun :=
  settle { r with writer := some (.start writeMs pingMs r.clock) }

def setSink (r : ConnectionRun) (mode : SinkMode) : ConnectionRun := settle { r with sink := mode }

def watch (r : ConnectionRun) (intervalMs idleMs : Nat) : ConnectionRun :=
  settle { r with watchdog := some (.start intervalMs idleMs r.clock) }

/-- What a run did since last asked. -/
structure ConnectionOutput where
  written : List Outgoing
  writerExit : Option WriterExit
  idleOutcome : Option IdleOutcome
  records : List LogRecord

/-- Hands over what happened since last asked; tasks that ended are gone. -/
def takeOutput (r : ConnectionRun) : ConnectionOutput × ConnectionRun :=
  let exit := r.writer.bind Writer.exit?
  let idle := r.watchdog.bind Watchdog.outcome
  let (records, telemetry) := r.connection.telemetry.takeRecords
  (⟨r.written, exit, idle, records⟩, { r with
    written := []
    writer := if exit.isSome then none else r.writer
    watchdog := if idle.isSome then none else r.watchdog
    connection := { r.connection with telemetry } })

end ConnectionRun

end Fanout.Simulation
