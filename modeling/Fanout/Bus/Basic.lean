import Fanout.Bus.Channel
import Fanout.Bus.Table
import Fanout.Frame
import Fanout.Telemetry

/-!
The event bus. Callers put events on a bounded queue; one loop takes them off in order and calls the
handlers of the subscriptions that want them. Each operation here is a step that no other one can
interrupt.
-/
namespace Fanout

inductive BusError where
  | busClosed
  | invalidFilter (e : FilterError)
  | invalidEvent (e : EventError)
  | queueOverflow
  deriving DecidableEq

def BusError.message : BusError → String
  | .busClosed => "event bus is closed"
  | .invalidFilter e => "invalid filter: " ++ e.message
  | .invalidEvent e => "invalid event: " ++ e.message
  | .queueOverflow => "publish queue is full"

/-- How a handler ended. -/
inductive HandlerOutcome where
  | handled
  | failed (reason : String)
  /-- It crashed, maybe with a message. -/
  | crashed (message : Option String)

/-- Natural numbers. Counters of 64 bits agree with them up to `2 ^ 64 - 1` and then begin again at
zero. -/
structure BusCounters where
  published : Nat := 0
  dispatched : Nat := 0
  matcherEvaluations : Nat := 0
  deliveries : Nat := 0
  handlerFailures : Nat := 0
  deriving DecidableEq

/-- An event on its way to the subscriptions that were there when it was taken off the queue. -/
structure Dispatch (H : Type) where
  event : Event
  /-- Whether some handler has asked for the frame. -/
  encoded : Bool := false
  targets : List (SubscriptionId × H)

/-- The one call that drains the bus for all that ask for a shutdown. -/
inductive Draining where
  | idle
  /-- It has ended subscribing. -/
  | closed
  /-- It has ended publishing, too. -/
  | stopped
  /-- Under way; `awaitsLoop` if it has to see the delivery loop end. -/
  | active (awaitsLoop : Bool)
  | done
  deriving DecidableEq

structure Bus (H : Type) where
  channel : Channel Event
  table : SubscriptionTable H := {}
  /-- A natural number, so that none is given twice. With 64 bits one is after `2 ^ 64` of them. -/
  nextId : Nat := 1
  counters : BusCounters := {}
  current : Option (Dispatch H) := none
  /-- Whether the delivery loop has ended. -/
  loopEnded : Bool := false
  /-- Whether nobody has yet taken on to wait for the loop. -/
  loopJoinable : Bool := true
  draining : Draining := .idle
  telemetry : Telemetry := {}

structure BusStats where
  counters : BusCounters
  subscriptions : Nat
  distinctFilters : Nat

namespace Bus

variable {H : Type}

def defaultCapacity : Nat := 1024

def new (capacity : Nat := defaultCapacity) : Bus H := { channel := .new capacity }

def stats (b : Bus H) : BusStats := ⟨b.counters, b.table.size, b.table.distinctFilters⟩

/-- Whether a shutdown has begun. -/
def isClosed (b : Bus H) : Bool := b.table.closed

def isLive (b : Bus H) (id : SubscriptionId) : Bool := Keyed.contains id b.table.owners

def gaugeSubscriptions (b : Bus H) : Bus H :=
  { b with telemetry := b.telemetry.gauge "herald_bus_subscriptions" b.table.size }

def subscribe (b : Bus H) (now : Time.Timestamp) (f : Filter) (h : H) :
    Except BusError (SubscriptionId × Bus H) :=
  match f.check with
  | .error e => .error (.invalidFilter e)
  | .ok () =>
    if b.table.closed then .error .busClosed
    else
      let id : SubscriptionId := ⟨b.nextId⟩
      .ok (id, gaugeSubscriptions
        { b with table := b.table.insert f ⟨id, h, now⟩, nextId := b.nextId + 1 })

/-- Removes a subscription and says whether there was one. -/
def unsubscribe (b : Bus H) (id : SubscriptionId) : Bool × Bus H :=
  match b.table.remove id with
  | (true, table) => (true, gaugeSubscriptions { b with table })
  | (false, _) => (false, b)

/-- A publisher takes a sender. -/
def acquire (b : Bus H) : Except BusError (Bus H) :=
  match b.channel.acquire with
  | some channel => .ok { b with channel }
  | none => .error .busClosed

/-- A publisher puts its event on the queue, if there is room. -/
def place (b : Bus H) (e : Event) : Option (Bus H) :=
  (b.channel.trySend e).map fun channel => { b with channel }

/-- A publisher that found no room begins to wait. -/
def awaitRoom (b : Bus H) : Bus H := { b with channel := b.channel.wait }

/-- A publisher that waited puts its event on the queue. -/
def placeReserved (b : Bus H) (e : Event) : Option (Bus H) :=
  (b.channel.sendReserved e).map fun channel => { b with channel }

/-- A publisher notes that its event was accepted. -/
def recordPublished (b : Bus H) : Bus H :=
  { b with
    counters := { b.counters with published := b.counters.published + 1 }
    telemetry := b.telemetry.count "herald_events_published_total" }

/-- A publisher gives its sender back. -/
def release (b : Bus H) : Bus H := { b with channel := b.channel.release }

def recordOverflow (b : Bus H) (e : Event) : Bus H :=
  { b with
    telemetry := (b.telemetry.count "herald_publish_overflow_total").log
      (.warn "publish queue full" [("event_type", e.type)]) }

/-- Publishes an event if there is room at once. -/
def tryPublish (b : Bus H) (e : Event) : Except BusError Unit × Bus H :=
  match b.acquire with
  | .error x => (.error x, b)
  | .ok b =>
    match b.place e with
    | some b => (.ok (), b.recordPublished.release)
    | none => (.error .queueOverflow, (b.recordOverflow e).release)

/-- The loop takes the next event and notes who is to get it. -/
def beginDispatch (b : Bus H) : Option (Bus H) :=
  match b.current, b.channel.receive with
  | none, some (event, channel) =>
    some { b with
      channel
      counters := { b.counters with
        dispatched := b.counters.dispatched + 1
        matcherEvaluations := b.counters.matcherEvaluations + b.table.distinctFilters }
      current := some { event, targets := b.table.targets event } }
  | _, _ => none

/-- The frame of the event being delivered. It is encoded once. -/
def takeFrame (b : Bus H) : Option (String × Bus H) :=
  b.current.map fun d => (d.event.frame, { b with current := some { d with encoded := true } })

/-- What a handler's crash is reported as. -/
def crashText (message : Option String) : String := message.getD "non-string panic payload"

/-- Notes how a handler ended. -/
def recordOutcome (b : Bus H) (id : SubscriptionId) (eventType : String) :
    HandlerOutcome → Bus H
  | .handled =>
    { b with
      counters := { b.counters with deliveries := b.counters.deliveries + 1 }
      telemetry := b.telemetry.count "herald_deliveries_total" }
  | .failed reason =>
    { b with
      counters := { b.counters with handlerFailures := b.counters.handlerFailures + 1 }
      telemetry := (b.telemetry.count "herald_handler_failures_total").log
        (.warn "handler failure"
          [("subscription_id", id.display), ("event_type", eventType), ("error", reason)]) }
  | .crashed message =>
    { b with
      counters := { b.counters with handlerFailures := b.counters.handlerFailures + 1 }
      telemetry := (b.telemetry.count "herald_handler_failures_total").log
        (.error "handler failure: panicked"
          [("subscription_id", id.display), ("event_type", eventType),
            ("panic", crashText message)]) }

/-- Calls a handler, which may use the bus and the world `σ`. -/
abbrev React (H σ : Type) := SubscriptionId → H → Bus H → σ → HandlerOutcome × Bus H × σ

/-- One step of the delivery loop: call the next handler, finish an event, take the next one, or
end. None if there is nothing to do. -/
def stepLoop {σ : Type} (react : React H σ) (b : Bus H) (s : σ) : Option (Bus H × σ) :=
  if b.loopEnded then none
  else match b.current with
    | some d =>
      match d.targets with
      | [] => some ({ b with current := none }, s)
      | (id, h) :: rest =>
        let (outcome, b, s) := react id h { b with current := some { d with targets := rest } } s
        some (b.recordOutcome id d.event.type outcome, s)
    | none =>
      match b.beginDispatch with
      | some b => some (b, s)
      | none => if b.channel.isFinished then some ({ b with loopEnded := true }, s) else none

/-- Runs the delivery loop until it waits or has ended, for at most `fuel` steps. -/
def runLoop {σ : Type} (react : React H σ) : (fuel : Nat) → Bus H → σ → Bus H × σ
  | 0, b, s => (b, s)
  | fuel + 1, b, s =>
    match b.stepLoop react s with
    | some (b, s) => runLoop react fuel b s
    | none => (b, s)

/-- Steps that deliver all that is queued, if no handler publishes or subscribes. -/
def backlog (b : Bus H) : Nat :=
  (b.channel.items.length + 1) * (b.table.size + 2) +
    (b.current.elim 0 fun d => d.targets.length + 1) + 1

/-- Ends subscribing. -/
def closeTable (b : Bus H) : Bus H :=
  { b with table := { b.table with closed := true }, draining := .closed }

/-- Ends publishing. Who has a sender keeps it. -/
def stopPublishing (b : Bus H) : Bus H := { b with channel := b.channel.stop, draining := .stopped }

/-- Takes on to wait for the loop, unless somebody did so before. The loop goes on by itself. -/
def takeLoop (b : Bus H) : Bus H :=
  { b with loopJoinable := false, draining := .active b.loopJoinable }

/-- Stops subscribing and publishing in one go. The first to come here waits for the loop. -/
def beginDrain (b : Bus H) : Bus H := b.closeTable.stopPublishing.takeLoop

/-- Drops all subscriptions. -/
def endDrain (b : Bus H) : Bus H :=
  gaugeSubscriptions { b with table := b.table.clear, draining := .done }

/-- A call to shut down comes in: it drains unless another call does so or has done so. -/
def beginShutdown (b : Bus H) : Bus H :=
  match b.draining with
  | .idle => b.beginDrain
  | _ => b

/-- The call that drains goes on if it can. -/
def stepShutdown (b : Bus H) : Option (Bus H) :=
  match b.draining with
  | .active awaitsLoop => if b.loopEnded || !awaitsLoop then some b.endDrain else none
  | _ => none

/-- The call that drains is given up. The next call to shut down drains anew. -/
def abandonShutdown (b : Bus H) : Bus H :=
  match b.draining with
  | .active _ => { b with draining := .idle }
  | _ => b

/-- Shuts down while the loop delivers what is queued, for at most `fuel` steps of it. -/
def shutdown {σ : Type} (react : React H σ) (fuel : Nat) (b : Bus H) (s : σ) : Bus H × σ :=
  let (b, s) := runLoop react fuel b.beginShutdown s
  (b.stepShutdown.getD b, s)

end Bus

end Fanout
