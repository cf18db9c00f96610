import Fanout.Proofs.Bus.Delivery
import Fanout.Proofs.Bus.Holders
import Mathlib.Data.List.Perm.Basic
import Mathlib.Logic.Function.Iterate
import Mathlib.Logic.Relation

/-!
A bus in the hands of many callers at once. A call to publish or to shut down takes its steps one by
one. Between any two of them, and while a handler runs, everybody else may go on.
-/
namespace Fanout.Bus

variable {H : Type}

/-- Where a call to publish stands. Until it has returned it has a sender. -/
inductive Publisher where
  /-- It `waits` if there is no room, or else gives up. -/
  | holding (e : Event) (waits : Bool)
  | waiting (e : Event)
  | placed (e : Event)
  | recorded (e : Event)
  | refused (e : Event)
  | returned (e : Event) (result : Except BusError Unit)

namespace Publisher

def hasSender : Publisher → Bool
  | .returned _ _ => false
  | _ => true

def accepted? : Publisher → Option Event
  | .placed e | .recorded e | .returned e (.ok ()) => some e
  | _ => none

def enter (b : Bus H) (e : Event) (waits : Bool) : Publisher × Bus H :=
  match b.acquire with
  | .ok b => (.holding e waits, b)
  | .error x => (.returned e (.error x), b)

/-- The next step of a call. To look for room and to begin to wait for it are one step. -/
def advance (b : Bus H) : Publisher → Publisher × Bus H
  | .holding e waits =>
    match b.place e with
    | some b => (.placed e, b)
    | none => if waits then (.waiting e, b.awaitRoom) else (.refused e, b.recordOverflow e)
  | .waiting e =>
    match b.placeReserved e with
    | some b => (.placed e, b)
    | none => (.waiting e, b)
  | .placed e => (.recorded e, b.recordPublished)
  | .recorded e => (.returned e (.ok ()), b.release)
  | .refused e => (.returned e (.error .queueOverflow), b.release)
  | .returned e result => (.returned e result, b)

def newlyAccepted (p p' : Publisher) : List Event :=
  if p.accepted?.isSome then [] else p'.accepted?.toList

theorem newlyAccepted_self (p : Publisher) : p.newlyAccepted p = [] := by
  cases h : p.accepted? <;> simp [newlyAccepted, h]

/-- A call that does not wait, and that nobody comes between, is `tryPublish`. -/
theorem advance_enter_eq_tryPublish (b : Bus H) (e : Event) :
    (fun x : Publisher × Bus H => x.1.advance x.2)^[3] (enter b e false) =
      (.returned e (b.tryPublish e).1, (b.tryPublish e).2) := by
  cases ha : b.acquire with
  | error x => simp [enter, tryPublish, ha, advance]
  | ok b₁ =>
    cases hp : b₁.place e with
    | some b₂ => simp [enter, tryPublish, ha, hp, advance]
    | none => simp [enter, tryPublish, ha, hp, advance]

/-- Once publishing has ended a call fails at once. -/
theorem enter_closed {b : Bus H} (h : b.channel.accepting = false) (e : Event) (waits : Bool) :
    enter b e waits = (.returned e (.error .busClosed), b) := by
  have hacquire : b.acquire = .error .busClosed := by simp [acquire, Channel.acquire, h]
  simp only [enter, hacquire]

/-- Only the senders change when a call comes in. -/
theorem enter_eq (b : Bus H) (e : Event) (waits : Bool) :
    (enter b e waits).2 = { b with channel := { b.channel with
        senders := b.channel.senders + (enter b e waits).1.hasSender.toNat } } ∧
      (enter b e waits).1.accepted? = none := by
  by_cases ha : b.channel.accepting = true
  · have hacquire : b.acquire =
        .ok { b with channel := { b.channel with senders := b.channel.senders + 1 } } := by
      simp [acquire, Channel.acquire, ha]
    simp only [enter, hacquire]
    exact ⟨rfl, rfl⟩
  · rw [enter_closed (by simpa using ha)]
    exact ⟨rfl, rfl⟩

/-- A call that has returned takes no more steps. -/
theorem advance_of_hasSender {p : Publisher} (h : p.hasSender = false) (b : Bus H) :
    p.advance b = (p, b) := by
  cases p with
  | returned e result => rfl
  | _ => cases h

/-- A step of a call changes the channel, the count of events published and telemetry. -/
theorem advance_eq {b : Bus H} {p : Publisher} (h : p.hasSender = true → 0 < b.channel.senders) :
    ∃ c n t, (p.advance b).2 = { b with
        channel := c, counters := { b.counters with published := n }, telemetry := t } ∧
      c.items = b.channel.items ++ newlyAccepted p (p.advance b).1 ∧
      c.accepting = b.channel.accepting ∧
      c.senders + p.hasSender.toNat = b.channel.senders + (p.advance b).1.hasSender.toNat ∧
      (p.advance b).1.accepted?.toList =
        p.accepted?.toList ++ newlyAccepted p (p.advance b).1 := by
  have hrelease : b.channel.senders - 1 + 1 = b.channel.senders + 0 ∨ p.hasSender = false := by
    cases hp : p.hasSender with
    | true =>
      have := h hp
      left
      omega
    | false => exact .inr rfl
  cases p with
  | holding e waits =>
    simp only [advance]
    cases hp : b.place e with
    | some b₁ =>
      obtain ⟨c, hc, rfl⟩ := Option.map_eq_some_iff.mp hp
      obtain ⟨hi, ha, hs⟩ := Channel.trySend_eq hc
      exact ⟨c, _, _, rfl, hi, ha, congrArg (· + 1) hs, rfl⟩
    | none =>
      cases waits with
      | true => exact ⟨b.channel.wait, _, _, rfl, (List.append_nil _).symm, rfl, rfl, rfl⟩
      | false => exact ⟨b.channel, _, _, rfl, (List.append_nil _).symm, rfl, rfl, rfl⟩
  | waiting e =>
    simp only [advance]
    cases hp : b.placeReserved e with
    | some b₁ =>
      obtain ⟨c, hc, rfl⟩ := Option.map_eq_some_iff.mp hp
      obtain ⟨hi, ha, hs⟩ := Channel.sendReserved_eq hc
      exact ⟨c, _, _, rfl, hi, ha, congrArg (· + 1) hs, rfl⟩
    | none => exact ⟨b.channel, _, _, rfl, (List.append_nil _).symm, rfl, rfl, rfl⟩
  | placed e => exact ⟨b.channel, _, _, rfl, (List.append_nil _).symm, rfl, rfl, rfl⟩
  | recorded e | refused e =>
    exact ⟨b.channel.release, _, _, rfl, (List.append_nil _).symm, rfl,
      hrelease.resolve_right (by simp [hasSender]), rfl⟩
  | returned e result =>
    have hnone := newlyAccepted_self (returned e result)
    refine ⟨b.channel, _, _, rfl, ?_, rfl, rfl, ?_⟩
    · simp [advance, hnone]
    · simp [advance, hnone]

end Publisher

inductive Closer where
  /-- Until it may drain itself, or another call has done so. -/
  | waiting
  | draining
  | returned
  | abandoned
  deriving DecidableEq

/-- One step of the call that drains. None if it has to wait for the loop. -/
def stepDrain (b : Bus H) : Option (Bus H) :=
  match b.draining with
  | .closed => some b.stopPublishing
  | .stopped => some b.takeLoop
  | _ => b.stepShutdown

namespace Closer

def advance (b : Bus H) : Closer → Closer × Bus H
  | .waiting =>
    match b.draining with
    | .idle => (.draining, b.closeTable)
    | .done => (.returned, b)
    | _ => (.waiting, b)
  | .draining => if b.draining = .done then (.returned, b) else (.draining, b.stepDrain.getD b)
  | .returned => (.returned, b)
  | .abandoned => (.abandoned, b)

/-- A call is given up, which can happen only while it waits: for another call or for the loop. -/
def abandon (b : Bus H) : Closer → Closer × Bus H
  | .waiting => (.abandoned, b)
  | .draining =>
    if b.draining = .active true then (.abandoned, b.abandonShutdown) else (.draining, b)
  | .returned => (.returned, b)
  | .abandoned => (.abandoned, b)

end Closer

/-- The journal, with the calls that came in and the subscriptions that their owners want. -/
structure Ledger (H : Type) extends Journal H where
  /-- Subscriptions made and not taken back. -/
  standing : List (Grant H) := []
  /-- The subscriptions that stood when each dispatch noted its targets. -/
  stood : List (List (Grant H)) := []
  publishers : List Publisher := []
  closers : List Closer := []
  /-- Whether a call was given up that was to see the loop end. -/
  orphaned : Bool := false

structure World (H : Type) where
  bus : Bus H
  ledger : Ledger H := {}

inductive Move (H : Type) where
  | subscribe (now : Time.Timestamp) (f : Filter) (h : H)
  | unsubscribe (id : SubscriptionId)
  /-- A call to publish comes in. -/
  | publish (e : Event) (waits : Bool)
  /-- A call to publish goes on. -/
  | advance (n : Nat)
  | takeFrame
  /-- A call to shut down comes in. -/
  | shutdown
  /-- A call to shut down goes on. -/
  | close (n : Nat)
  /-- A call to shut down is given up. -/
  | abandon (n : Nat)

/-- Makes a move. One that cannot be made changes nothing. -/
def Move.perform : Move H → World H → World H
  | .subscribe now f h, w =>
    match w.bus.subscribe now f h with
    | .ok (id, bus) =>
      ⟨bus, { w.ledger with
        granted := w.ledger.granted ++ [⟨id, f, h⟩]
        standing := w.ledger.standing ++ [⟨id, f, h⟩] }⟩
    | .error _ => w
  | .unsubscribe id, w =>
    ⟨(w.bus.unsubscribe id).2,
      { w.ledger with standing := w.ledger.standing.filter fun g => g.id ≠ id }⟩
  | .publish e waits, w =>
    let (p, bus) := Publisher.enter w.bus e waits
    ⟨bus, { w.ledger with publishers := w.ledger.publishers ++ [p] }⟩
  | .advance n, w =>
    match w.ledger.publishers[n]? with
    | some p =>
      let (p', bus) := p.advance w.bus
      ⟨bus, { w.ledger with
        accepted := w.ledger.accepted ++ p.newlyAccepted p'
        publishers := w.ledger.publishers.set n p' }⟩
    | none => w
  | .takeFrame, w =>
    match w.bus.takeFrame with
    | some (_, bus) => { w with bus }
    | none => w
  | .shutdown, w => { w with ledger := { w.ledger with closers := w.ledger.closers ++ [.waiting] } }
  | .close n, w =>
    match w.ledger.closers[n]? with
    | some c =>
      let (c', bus) := c.advance w.bus
      ⟨bus, { w.ledger with closers := w.ledger.closers.set n c' }⟩
    | none => w
  | .abandon n, w =>
    match w.ledger.closers[n]? with
    | some c =>
      let (c', bus) := c.abandon w.bus
      ⟨bus, { w.ledger with
        closers := w.ledger.closers.set n c'
        orphaned := w.ledger.orphaned || (c = .draining && c' = .abandoned) }⟩
    | none => w

namespace World

def performAll (script : List (Move H)) (w : World H) : World H :=
  script.foldl (fun w m => m.perform w) w

def handle (script : List (Move H)) (outcome : HandlerOutcome) : React H (Ledger H) :=
  fun id h b l =>
    let w := performAll script ⟨b, { l with toJournal := l.noteInvocation b id h }⟩
    (outcome, w.bus, w.ledger)

def noteDispatch (l : Ledger H) (before after : Bus H) : Ledger H :=
  if before.current.isNone && after.current.isSome then
    { l with snapshots := l.snapshots ++ [before.table], stood := l.stood ++ [l.standing] }
  else l

def deliver (script : List (Move H)) (outcome : HandlerOutcome) (w : World H) : World H :=
  match w.bus.stepLoop (handle script outcome) w.ledger with
  | some (bus, ledger) => ⟨bus, noteDispatch ledger w.bus bus⟩
  | none => w

/-- What can happen next. Filters may be gone through in a new order at any time. -/
inductive Step : World H → World H → Prop where
  | move (m : Move H) (w : World H) : Step w (m.perform w)
  | deliver (script : List (Move H)) (outcome : HandlerOutcome) (w : World H) :
      Step w (deliver script outcome w)
  | reorder (w : World H) (entries : List (Filter × List (Subscriber H)))
      (h : entries.Perm w.bus.table.entries) :
      Step w { w with bus := { w.bus with table := { w.bus.table with entries } } }

def Later : World H → World H → Prop := Relation.ReflTransGen Step

def Reachable (capacity : Nat) (w : World H) : Prop := Later ⟨.new capacity, {}⟩ w

theorem later_performAll (script : List (Move H)) (w : World H) : Later w (performAll script w) := by
  induction script generalizing w with
  | nil => exact .refl
  | cons m rest ih => exact (Relation.ReflTransGen.single (.move m w)).trans (ih (m.perform w))

def journaled (w : World H) : Journaled H := ⟨w.bus, w.ledger.toJournal⟩

end World

end Fanout.Bus
