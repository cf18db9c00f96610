import Fanout.Proofs.Server.Ownership
import Mathlib.Logic.Function.Basic
import Mathlib.Logic.Function.Iterate

/-!
Runs of a registry, with a history of the frames offered to each connection. The loop of the bus,
publishers and calls to close a connection take their steps one by one.
-/
namespace Fanout.Registry

inductive Source where
  /-- The event of this dispatch, from one on. -/
  | event (turn : Nat)
  | reply
  deriving DecidableEq

inductive Fate where
  | waiting
  | taken
  | evicted
  | refused
  deriving DecidableEq

structure Parcel where
  source : Source
  text : String
  fate : Fate
  deriving DecidableEq

namespace Parcel

def event? (p : Parcel) : Option (Nat × String) :=
  match p.source with
  | .event turn => some (turn, p.text)
  | .reply => none

/-- Decides the fate of the first frame that waits. -/
def resolve (fate : Fate) : List Parcel → List Parcel
  | [] => []
  | p :: rest => if p.fate = .waiting then { p with fate } :: rest else p :: resolve fate rest

/-- A frame is offered. To make room the first one that waits may go. -/
def offer (ps : List Parcel) (source : Source) (text : String) : PushOutcome → List Parcel
  | .queued => ps ++ [⟨source, text, .waiting⟩]
  | .droppedOldest => resolve .evicted ps ++ [⟨source, text, .waiting⟩]
  | .overflow | .closed => ps ++ [⟨source, text, .refused⟩]

theorem resolve_append {past : List Parcel} {p : Parcel} (fate : Fate) (rest : List Parcel)
    (hpast : ∀ q ∈ past, q.fate ≠ .waiting) (hp : p.fate = .waiting) :
    resolve fate (past ++ p :: rest) = past ++ { p with fate } :: rest := by
  induction past with
  | nil => simp [resolve, hp]
  | cons q past ih =>
    have hq : q.fate ≠ .waiting := hpast q List.mem_cons_self
    simp [resolve, hq, ih fun r hr => hpast r (List.mem_cons_of_mem _ hr)]

/-- Whose frames they are does not change. -/
theorem filterMap_event?_resolve (fate : Fate) (ps : List Parcel) :
    (resolve fate ps).filterMap event? = ps.filterMap event? := by
  induction ps with
  | nil => rfl
  | cons p rest ih =>
    unfold resolve
    split_ifs
    · rfl
    · rw [List.filterMap_cons, List.filterMap_cons, ih]

theorem filterMap_event?_offer (ps : List Parcel) (source : Source) (text : String)
    (outcome : PushOutcome) (fate : Fate) :
    (offer ps source text outcome).filterMap event? =
      ps.filterMap event? ++ (event? ⟨source, text, fate⟩).toList := by
  cases outcome <;> cases source <;> simp [offer, event?, filterMap_event?_resolve]

end Parcel

/-- An event taken off the queue, with the filters that each connection held then. -/
structure Turn where
  event : Event
  held : ConnectionId → List Filter

structure History where
  /-- Events put on the queue, in order. -/
  accepted : List Event := []
  turns : List Turn := []
  /-- Turns that there had been when a connection was admitted. -/
  since : ConnectionId → Nat := fun _ => 0
  /-- Frames offered to a connection, in order. -/
  parcels : ConnectionId → List Parcel := fun _ => []
  /-- Frames that a connection's writer got, in order. -/
  handed : ConnectionId → List String := fun _ => []

namespace History

def accept (h : History) (e : Event) : History := { h with accepted := h.accepted ++ [e] }

def give (h : History) (id : ConnectionId) (source : Source) (text : String)
    (outcome : PushOutcome) : History :=
  { h with parcels :=
      Function.update h.parcels id (Parcel.offer (h.parcels id) source text outcome) }

/-- The writer of a connection asked for a frame and got `frame`. -/
def take (h : History) (id : ConnectionId) : (frame : Option String) → History
  | some text =>
    { h with
      parcels := Function.update h.parcels id (Parcel.resolve .taken (h.parcels id))
      handed := Function.update h.handed id (h.handed id ++ [text]) }
  | none => h

/-- Notes a step of the loop from `r` on: a handler has offered the event's frame to its connection,
or an event has been taken off the queue. -/
def noteStep (h : History) (r : Registry) (after : Bus ConnectionId) : History :=
  match r.bus.current with
  | some d =>
    match d.targets with
    | (_, id) :: _ =>
      h.give id (.event r.bus.counters.dispatched) d.event.frame
        ((r.connection? id).elim .closed fun c => (c.enqueue d.event.frame).1)
    | [] => h
  | none =>
    match after.current with
    | some d => { h with turns := h.turns ++ [⟨d.event, fun id => Keyed.keys (r.ownedBy id)⟩] }
    | none => h

end History

structure Recorded where
  registry : Registry
  history : History := {}

namespace Recorded

def dispatch (x : Recorded) : Recorded :=
  match x.registry.bus.stepLoop forward x.registry.connections with
  | some (bus, connections) =>
    ⟨{ x.registry with bus, connections }, x.history.noteStep x.registry bus⟩
  | none => x

def deliver (x : Recorded) : Recorded := dispatch^[x.registry.bus.backlog] x

def withBus (x : Recorded) (bus : Bus ConnectionId) : Recorded :=
  { x with registry := { x.registry with bus } }

def accept (x : Recorded) (e : Event) (bus : Bus ConnectionId) : Recorded :=
  ⟨{ x.registry with bus }, x.history.accept e⟩

def publish (e : Event) (x : Recorded) : Recorded :=
  match x.registry.bus.acquire with
  | .error _ => x
  | .ok bus =>
    match bus.place e with
    | some bus => x.accept e bus.recordPublished.release
    | none =>
      let x := (x.withBus bus.awaitRoom).deliver
      match x.registry.bus.placeReserved e with
      | some bus => x.accept e bus.recordPublished.release
      | none => x.withBus x.registry.bus.release

def tryPublish (e : Event) (x : Recorded) : Recorded :=
  match x.registry.bus.tryPublish e with
  | (.ok (), bus) => x.accept e bus
  | (.error _, bus) => x.withBus bus

def register (id : ConnectionId) (session : Option String) (clock : Nat) (x : Recorded) :
    Recorded :=
  match x.registry.register id session clock with
  | .ok r =>
    ⟨r, { x.history with since := Function.update x.history.since id x.history.turns.length }⟩
  | .error _ => x

def enqueue (id : ConnectionId) (frame : String) (x : Recorded) : Recorded :=
  match x.registry.enqueue id frame with
  | .ok (outcome, r) => ⟨r, x.history.give id .reply frame outcome⟩
  | .error _ => x

def popFrame (id : ConnectionId) (x : Recorded) : Recorded :=
  ⟨x.registry.update id fun c => c.popFrame.2,
    x.history.take id ((x.registry.connection? id).bind fun c => c.popFrame.1)⟩

/-- Performs an operation and notes what it does to frames. -/
def operate (op : Operation) (x : Recorded) : Recorded :=
  match op with
  | .register id session clock => x.register id session clock
  | .enqueue id frame => x.enqueue id frame
  | .popFrame id => x.popFrame id
  | .publish e => x.publish e
  | .tryPublish e => x.tryPublish e
  | .dispatch => x.dispatch
  | .deliver => x.deliver
  | .subscribe .. | .unsubscribe .. | .cancel _ | .close _ | .closeAll =>
    { x with registry := op.perform x.registry }

end Recorded

/-- What happens to a registry, in steps that nothing comes between. -/
inductive Action where
  | operate (op : Operation)
  | acquire
  | place (e : Event)
  | awaitRoom
  | placeReserved (e : Event)
  | recordPublished
  | release
  /-- A connection is stopped, and is there no more. -/
  | beginClose (id : ConnectionId)
  /-- Its last write has ended, and its subscriptions are dropped. -/
  | endClose (id : ConnectionId)
  /-- The bus goes through filters in a new order. -/
  | reorder (entries : List (Filter × List (Subscriber ConnectionId)))

namespace Action

def perform : Action → Recorded → Recorded
  | .operate op, x => x.operate op
  | .acquire, x =>
    match x.registry.bus.acquire with
    | .ok bus => x.withBus bus
    | .error _ => x
  | .place e, x =>
    match x.registry.bus.place e with
    | some bus => x.accept e bus
    | none => x
  | .awaitRoom, x => x.withBus x.registry.bus.awaitRoom
  | .placeReserved e, x =>
    match x.registry.bus.placeReserved e with
    | some bus => x.accept e bus
    | none => x
  | .recordPublished, x => x.withBus x.registry.bus.recordPublished
  | .release, x => x.withBus x.registry.bus.release
  | .beginClose id, x => { x with registry := (x.registry.unregister id).2.beginClose id }
  | .endClose id, x =>
    { x with registry := ((x.registry.endClose id).getD x.registry).dropSubscriptions id }
  | .reorder entries, x =>
    x.withBus { x.registry.bus with table := { x.registry.bus.table with entries } }

/-- Identifiers are fresh, and no filter comes or goes when they change places. -/
def Allowed : Action → Registry → Prop
  | .operate op, r => op.Fresh r
  | .reorder entries, r => entries.Perm r.bus.table.entries
  | _, _ => True

end Action

namespace Recorded

inductive Reachable (config : RegistryConfig) (capacity : Nat) : Recorded → Prop
  | start : Reachable config capacity ⟨.new config capacity, {}⟩
  | step {x : Recorded} (h : Reachable config capacity x) (a : Action)
      (ha : a.Allowed x.registry) : Reachable config capacity (a.perform x)

theorem dispatch_registry (x : Recorded) : x.dispatch.registry = x.registry.dispatch := by
  unfold dispatch Registry.dispatch
  cases x.registry.bus.stepLoop forward x.registry.connections <;> rfl

theorem iterate_dispatch_registry (n : Nat) (x : Recorded) :
    (dispatch^[n] x).registry = { x.registry with
      bus := (x.registry.bus.runLoop forward n x.registry.connections).1
      connections := (x.registry.bus.runLoop forward n x.registry.connections).2 } := by
  induction n generalizing x with
  | zero => rfl
  | succ n ih =>
    rw [Function.iterate_succ_apply, ih]
    cases hs : x.registry.bus.stepLoop forward x.registry.connections with
    | some y => simp [dispatch, Bus.runLoop, hs]
    | none =>
      -- A loop that is stuck stays so.
      have hstuck : ∀ m, x.registry.bus.runLoop forward m x.registry.connections =
          (x.registry.bus, x.registry.connections) := by
        intro m
        cases m <;> simp [Bus.runLoop, hs]
      simp [dispatch, hs, hstuck]

theorem deliver_registry (x : Recorded) : x.deliver.registry = x.registry.deliver :=
  iterate_dispatch_registry _ x

theorem publish_registry (e : Event) (x : Recorded) :
    (x.publish e).registry = (x.registry.publish e).2 := by
  unfold publish Registry.publish
  cases x.registry.bus.acquire with
  | error e => rfl
  | ok bus =>
    cases hp : bus.place e with
    | some bus => simp [hp, accept]
    | none =>
      have hd : (x.withBus bus.awaitRoom).deliver.registry =
          Registry.deliver { x.registry with bus := bus.awaitRoom } := deliver_registry _
      simp only [hp]
      generalize (x.withBus bus.awaitRoom).deliver = y at hd ⊢
      rw [← hd]
      cases y.registry.bus.placeReserved e <;> rfl

theorem operate_registry (op : Operation) (x : Recorded) :
    (x.operate op).registry = op.perform x.registry := by
  cases op with
  | register id session clock =>
    simp only [operate, register, Operation.perform]
    cases x.registry.register id session clock <;> rfl
  | enqueue id frame =>
    simp only [operate, enqueue, Operation.perform]
    cases x.registry.enqueue id frame <;> rfl
  | popFrame id => rfl
  | publish e => exact publish_registry e x
  | tryPublish e =>
    simp only [operate, tryPublish, Operation.perform]
    split <;> rename_i h <;> rw [h] <;> rfl
  | dispatch => exact dispatch_registry x
  | deliver => exact deliver_registry x
  | subscribe now id f | unsubscribe id f | cancel id | close id | closeAll => rfl

/-- Every run of the registry has a history. -/
theorem Reachable.of_registry {config : RegistryConfig} {capacity : Nat} {r : Registry}
    (hr : Registry.Reachable config capacity r) : ∃ h, Reachable config capacity ⟨r, h⟩ := by
  induction hr with
  | start => exact ⟨{}, .start⟩
  | @step r _ op hf ih =>
    obtain ⟨h, hx⟩ := ih
    have hstep := hx.step (.operate op) hf
    have hregistry := operate_registry op ⟨r, h⟩
    exact ⟨(operate op ⟨r, h⟩).history, hregistry ▸ hstep⟩

end Recorded

end Fanout.Registry
