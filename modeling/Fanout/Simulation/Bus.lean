import Fanout.Bus.Basic

/-! A bus whose handlers follow a script, run one call at a time. -/
namespace Fanout.Simulation

/-- What a scripted handler does with an event. `ε` is what may be wrong with a script. -/
inductive Handler (ε : Type) where
  | ignore
  /-- Notes the event. -/
  | record
  /-- Notes the frame. -/
  | frame
  /-- Notes whether the frame has been encoded already. -/
  | encoded
  | fail (reason : String)
  | crash (message : Event → Option String)
  /-- Removes a subscription, its own unless told which. -/
  | unsubscribe (id : Option SubscriptionId)
  /-- Adds a subscriber that ignores what it gets. -/
  | subscribe (filter : Except ε Filter)
  | publish (event : Except ε Event)

/-- Why something that a handler tried did not work. -/
inductive Trouble (ε : Type) where
  | script (e : ε)
  | bus (e : BusError)

/-- What a scripted handler notes. -/
inductive Note (ε : Type) where
  | event (e : Event)
  | frame (text : String)
  | encoded (already : Bool)
  | removed (eventType : String) (existed : Bool)
  | subscribed (eventType : String) (result : Except (Trouble ε) SubscriptionId)
  | published (eventType : String) (result : Except (Trouble ε) Unit)

structure BusRun (ε : Type) where
  bus : Bus (Handler ε)
  now : Time.Timestamp
  /-- What was noted since last asked, in order. -/
  notes : List (SubscriptionId × Note ε) := []

/-- The notes of a run, with the clock. -/
abbrev NoteBook (ε : Type) := Time.Timestamp × List (SubscriptionId × Note ε)

variable {ε : Type}

def NoteBook.add (s : NoteBook ε) (id : SubscriptionId) (n : Note ε) : NoteBook ε :=
  (s.1, s.2 ++ [(id, n)])

/-- Calls a scripted handler. -/
def react : Bus.React (Handler ε) (NoteBook ε) := fun id h b s =>
  match b.current.map Dispatch.event with
  | none => (.handled, b, s)
  | some e =>
    match h with
    | .ignore => (.handled, b, s)
    | .record => (.handled, b, s.add id (.event e))
    | .frame =>
      match b.takeFrame with
      | some (text, b) => (.handled, b, s.add id (.frame text))
      | none => (.handled, b, s)
    | .encoded => (.handled, b, s.add id (.encoded (b.current.elim false Dispatch.encoded)))
    | .fail reason => (.failed reason, b, s)
    | .crash message => (.crashed (message e), b, s)
    | .unsubscribe target =>
      let (existed, b) := b.unsubscribe (target.getD id)
      (.handled, b, s.add id (.removed e.type existed))
    | .subscribe filter =>
      match filter with
      | .error x => (.handled, b, s.add id (.subscribed e.type (.error (.script x))))
      | .ok f =>
        match b.subscribe s.1 f .ignore with
        | .ok (new, b) => (.handled, b, s.add id (.subscribed e.type (.ok new)))
        | .error x => (.handled, b, s.add id (.subscribed e.type (.error (.bus x))))
    | .publish event =>
      match event with
      | .error x => (.handled, b, s.add id (.published e.type (.error (.script x))))
      | .ok out =>
        let (result, b) := b.tryPublish out
        (.handled, b, s.add id (.published e.type (result.mapError .bus)))

namespace BusRun

/-- Steps of the delivery loop that a run allows in one go, since handlers may publish. -/
def loopFuel : Nat := 1000000

def start (capacity : Nat) (now : Time.Timestamp) : BusRun ε := { bus := .new capacity, now }

def ofLoop (r : BusRun ε) (x : Bus (Handler ε) × NoteBook ε) : BusRun ε :=
  { r with bus := x.1, notes := x.2.2 }

/-- Delivers all that is queued. -/
def settle (r : BusRun ε) : BusRun ε := r.ofLoop (r.bus.runLoop react loopFuel (r.now, r.notes))

def shutdown (r : BusRun ε) : BusRun ε := r.ofLoop (r.bus.shutdown react loopFuel (r.now, r.notes))

def subscribe (r : BusRun ε) (f : Filter) (h : Handler ε) :
    Except BusError SubscriptionId × BusRun ε :=
  match r.bus.subscribe r.now f h with
  | .ok (id, bus) => (.ok id, { r with bus })
  | .error e => (.error e, r)

def unsubscribe (r : BusRun ε) (id : SubscriptionId) : Bool × BusRun ε :=
  let (existed, bus) := r.bus.unsubscribe id
  (existed, { r with bus })

def tryPublish (r : BusRun ε) (e : Event) : Except BusError Unit × BusRun ε :=
  let (result, bus) := r.bus.tryPublish e
  (result, { r with bus })

/-- Publishes an event. If there is no room, all that is queued is delivered first. -/
def publish (r : BusRun ε) (e : Event) : Except BusError Unit × BusRun ε :=
  match r.bus.acquire with
  | .error x => (.error x, r)
  | .ok bus =>
    match bus.place e with
    | some bus => (.ok (), { r with bus := bus.recordPublished.release })
    | none =>
      let r := settle { r with bus := bus.awaitRoom }
      match r.bus.placeReserved e with
      | some bus => (.ok (), { r with bus := bus.recordPublished.release })
      | none => (.error .busClosed, { r with bus := r.bus.release })

/-- Makes an event and publishes it. -/
def publishRaw (r : BusRun ε) (type : String) (payload : Json.Value)
    (organization domain : Option String) : Except BusError Unit × BusRun ε :=
  match Event.make r.now type payload organization domain with
  | .error x => (.error (.invalidEvent x), r)
  | .ok e => r.publish e

/-- Hands over what was noted and logged since last asked. -/
def takeOutput (r : BusRun ε) :
    (List (SubscriptionId × Note ε) × List LogRecord) × BusRun ε :=
  let (records, telemetry) := r.bus.telemetry.takeRecords
  ((r.notes, records), { r with bus := { r.bus with telemetry }, notes := [] })

end BusRun

end Fanout.Simulation
