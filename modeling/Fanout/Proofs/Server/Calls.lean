import Fanout.Proofs.Server.Ownership
import Mathlib.Logic.Function.Iterate
import Mathlib.Logic.Relation

/-!
A registry in the hands of many callers at once. A call to subscribe, to unsubscribe or to close
takes its steps one by one, and between any two of them everybody else may go on.
-/
namespace Fanout.Registry

/-- What a connection is told of a filter if no subscription is to be made for it. -/
def answer? (config : RegistryConfig) (c : Connection) (f : Filter) :
    Option (Except RegistryError SubscribeOutcome) :=
  match c.subscriptionFor f with
  | some sub => some (.ok (.existing sub))
  | none =>
    if config.maxSubscriptions ≤ c.owned.length then
      some (.error (.tooManySubscriptions config.maxSubscriptions))
    else if f.isFirehose && config.maxFirehose ≤ c.firehoseCount then
      some (.error (.tooManyFirehoses config.maxFirehose))
    else none

/-- Where a call to subscribe stands. From `locked` until it returns it has the lock on the filters
of its connection. -/
inductive Subscribing where
  | called
  /-- The connection was there. -/
  | found
  | locked
  /-- The connection was not closed. -/
  | unclosed
  /-- The limits allow a subscription. -/
  | admitted
  /-- The bus has the subscription, which nobody owns yet. -/
  | made (sub : SubscriptionId)
  | returned (result : Except RegistryError SubscribeOutcome)
  deriving DecidableEq

/-- The next step of a call. It waits for the lock while that is `taken`. -/
def Subscribing.advance (now : Time.Timestamp) (id : ConnectionId) (f : Filter) (taken : Bool)
    (r : Registry) : Subscribing → Subscribing × Registry
  | .called =>
    if r.isLive id then (.found, r) else (.returned (.error (.unknownConnection id)), r)
  | .found => if taken then (.found, r) else (.locked, r)
  | .locked =>
    match r.connection? id with
    | none => (.returned (.error (.unknownConnection id)), r)
    | some c =>
      if c.isClosed then (.returned (.error (.unknownConnection id)), r) else (.unclosed, r)
  | .unclosed =>
    match (r.connection? id).bind fun c => answer? r.config c f with
    | some result => (.returned result, r)
    | none => (.admitted, r)
  | .admitted =>
    match r.bus.subscribe now f id with
    | .error e => (.returned (.error (.bus e)), r)
    | .ok (sub, bus) => (.made sub, { r with bus })
  | .made sub =>
    (.returned (.ok (.created sub)), r.update id fun c => { c with owned := Keyed.put f sub c.owned })
  | .returned result => (.returned result, r)

theorem subscribeOn_eq {r : Registry} {id : ConnectionId} {c : Connection}
    (hc : r.connection? id = some c) (hopen : c.isClosed = false) (now : Time.Timestamp)
    (f : Filter) :
    r.subscribeOn now id f = match answer? r.config c f with
      | some (.ok o) => .ok (o, r)
      | some (.error e) => .error e
      | none => match r.bus.subscribe now f id with
        | .error e => .error (.bus e)
        | .ok (sub, bus) => .ok (.created sub, ({ r with bus } : Registry).update id fun c =>
            { c with owned := Keyed.put f sub c.owned }) := by
  simp only [subscribeOn, hc, hopen, answer?]
  cases c.subscriptionFor f with
  | some sub => rfl
  | none =>
    by_cases hlen : r.config.maxSubscriptions ≤ c.owned.length
    · simp [hlen]
    · by_cases hfire : (f.isFirehose && decide (r.config.maxFirehose ≤ c.firehoseCount)) = true
      · simp [hlen, hfire]
      · rw [if_neg hlen, if_neg hlen, if_neg hfire, if_neg hfire]
        cases r.bus.subscribe now f id <;> rfl

/-- Steps that nobody comes between add up to `subscribe`. -/
theorem Subscribing.advance_eq_subscribe (r : Registry) (now : Time.Timestamp) (id : ConnectionId)
    (f : Filter) :
    (fun x : Subscribing × Registry => x.1.advance now id f false x.2)^[6] (.called, r) =
      (.returned ((r.subscribe now id f).map Prod.fst), r.afterCall (r.subscribe now id f)) := by
  unfold subscribe
  by_cases hl : r.isLive id = true
  · cases hc : r.connection? id with
    | none => simp [advance, hl, subscribeOn, hc, afterCall, Except.map]
    | some c =>
      cases hclosed : c.isClosed with
      | true => simp [advance, hl, subscribeOn, hc, hclosed, afterCall, Except.map]
      | false =>
        have hon := subscribeOn_eq hc hclosed now f
        cases ha : answer? r.config c f with
        | some result =>
          rw [ha] at hon
          cases result <;> simp [advance, hl, hon, hc, hclosed, ha, afterCall, Except.map]
        | none =>
          rw [ha] at hon
          cases hb : r.bus.subscribe now f id with
          | error e =>
            rw [hb] at hon
            simp [advance, hl, hon, hc, hclosed, ha, hb, afterCall, Except.map]
          | ok x =>
            rw [hb] at hon
            simp [advance, hl, hon, hc, hclosed, ha, hb, afterCall, Except.map]
  · simp [advance, hl, afterCall, Except.map]

inductive Unsubscribing where
  | called
  | found
  /-- The connection does not own the subscription any more, and the bus still has it. -/
  | disowned (sub : SubscriptionId)
  | returned (result : Except RegistryError Bool)
  deriving DecidableEq

def Unsubscribing.advance (id : ConnectionId) (f : Filter) (taken : Bool) (r : Registry) :
    Unsubscribing → Unsubscribing × Registry
  | .called =>
    if r.isLive id then (.found, r) else (.returned (.error (.unknownConnection id)), r)
  | .found =>
    if taken then (.found, r)
    else match r.disown id f with
      | (some sub, r) => (.disowned sub, r)
      | (none, r) => (.returned (.ok false), r)
  | .disowned sub => (.returned (.ok true), r.unsubscribeBus sub)
  | .returned result => (.returned result, r)

/-- Steps that nobody comes between add up to `unsubscribe`. -/
theorem Unsubscribing.advance_eq_unsubscribe (r : Registry) (id : ConnectionId) (f : Filter) :
    (fun x : Unsubscribing × Registry => x.1.advance id f false x.2)^[3] (.called, r) =
      (.returned ((r.unsubscribe id f).map Prod.fst), r.afterCall (r.unsubscribe id f)) := by
  unfold unsubscribe
  by_cases hl : r.isLive id = true
  · obtain hd | ⟨c, sub, -, -, hd⟩ := disown_cases r id f
    · simp [advance, hl, hd, afterCall, Except.map]
    · simp [advance, hl, hd, afterCall, Except.map]
  · simp [advance, hl, afterCall, Except.map]

inductive Closing where
  | called
  /-- The connection was there and is there no more. -/
  | removed
  /-- Queue and writer are stopped, and the call waits for the last write to end. -/
  | waiting
  | stopped
  /-- The connection owns nothing any more, and the bus still has what is `left`. -/
  | draining (left : List (Filter × SubscriptionId))
  | returned (closed : Bool)
  deriving DecidableEq

def Closing.advance (id : ConnectionId) (taken : Bool) (r : Registry) :
    Closing → Closing × Registry
  | .called =>
    match r.unregister id with
    | (true, r) => (.removed, r)
    | (false, r) => (.returned false, r)
  | .removed => (.waiting, r.beginClose id)
  | .waiting =>
    match r.endClose id with
    | some r => (.stopped, r)
    | none => (.waiting, r)
  | .stopped =>
    if taken then (.stopped, r) else (.draining (r.ownedBy id), (r.disownAll id).2)
  | .draining (p :: left) => (.draining left, r.unsubscribeBus p.2)
  | .draining [] => (.returned true, r)
  | .returned closed => (.returned closed, r)

theorem Closing.advance_draining (id : ConnectionId) (left : List (Filter × SubscriptionId))
    (r : Registry) :
    (fun x : Closing × Registry => x.1.advance id false x.2)^[left.length + 1] (.draining left, r) =
      (.returned true, (left.map Prod.snd).foldl unsubscribeBus r) := by
  induction left generalizing r with
  | nil => rfl
  | cons p left ih => exact ih (r.unsubscribeBus p.2)

/-- Steps that nobody comes between add up to `close`, if no write holds them up. -/
theorem Closing.advance_eq_close {r : Registry} {id : ConnectionId}
    (hgate : r.isLive id → (((r.unregister id).2.beginClose id).endClose id).isSome) :
    ∃ n, (fun x : Closing × Registry => x.1.advance id false x.2)^[n] (.called, r) =
      (.returned (r.close id).1, (r.close id).2) := by
  by_cases hl : r.isLive id = true
  · obtain ⟨r₁, hr₁⟩ : ∃ r₁, r.unregister id = (true, r₁) := ⟨_, if_pos hl⟩
    obtain ⟨r₂, hr₂⟩ := Option.isSome_iff_exists.mp (hgate hl)
    rw [hr₁] at hr₂
    have hclose : r.close id = (true, r₂.dropSubscriptions id) := by
      simp only [close, hr₁, hr₂, Option.getD_some]
    refine ⟨(r₂.ownedBy id).length + 1 + 4, ?_⟩
    rw [Function.iterate_add_apply]
    have hfour : (fun x : Closing × Registry => x.1.advance id false x.2)^[4] (.called, r) =
        (.draining (r₂.ownedBy id), (r₂.disownAll id).2) := by
      simp [advance, hr₁, hr₂]
    rw [hfour, advance_draining, hclose, ← disownAll_subs]
    rfl
  · refine ⟨1, ?_⟩
    have hnone : r.unregister id = (false, r) := if_neg hl
    simp [advance, close, hnone]

inductive Call where
  | subscribe (now : Time.Timestamp) (id : ConnectionId) (f : Filter) (p : Subscribing)
  | unsubscribe (id : ConnectionId) (f : Filter) (p : Unsubscribing)
  | close (id : ConnectionId) (p : Closing)
  deriving DecidableEq

namespace Call

def id : Call → ConnectionId
  | .subscribe _ id _ _ | .unsubscribe id _ _ | .close id _ => id

def isClose : Call → Bool
  | .close _ _ => true
  | _ => false

def hasReturned : Call → Bool
  | .subscribe _ _ _ (.returned _) | .unsubscribe _ _ (.returned _) | .close _ (.returned _) => true
  | _ => false

/-- The connection whose filters a call has locked. -/
def locks : Call → Option ConnectionId
  | .subscribe _ id _ .locked | .subscribe _ id _ .unclosed | .subscribe _ id _ .admitted
  | .subscribe _ id _ (.made _) => some id
  | _ => none

def advance (r : Registry) (taken : ConnectionId → Bool) : Call → Call × Registry
  | .subscribe now id f p =>
    let (p, r) := p.advance now id f (taken id) r
    (.subscribe now id f p, r)
  | .unsubscribe id f p =>
    let (p, r) := p.advance id f (taken id) r
    (.unsubscribe id f p, r)
  | .close id p =>
    let (p, r) := p.advance id (taken id) r
    (.close id p, r)

end Call

structure World where
  registry : Registry
  calls : List Call := []

namespace World

def taken (w : World) (id : ConnectionId) : Bool := w.calls.any fun c => c.locks = some id

def advance (w : World) (n : Nat) : World :=
  match w.calls[n]? with
  | some c =>
    let (c, r) := c.advance w.registry w.taken
    ⟨r, w.calls.set n c⟩
  | none => w

end World

/-- Whether something is done otherwise than through calls that take steps. -/
def Operation.isAside : Operation → Bool
  | .subscribe _ _ _ | .unsubscribe _ _ | .close _ | .closeAll => false
  | _ => true

namespace World

/-- What can happen next. A writer may do to the gate of its connection what it likes. -/
inductive Step : World → World → Prop where
  | subscribe (w : World) (now : Time.Timestamp) (id : ConnectionId) (f : Filter) :
      Step w { w with calls := w.calls ++ [.subscribe now id f .called] }
  | unsubscribe (w : World) (id : ConnectionId) (f : Filter) :
      Step w { w with calls := w.calls ++ [.unsubscribe id f .called] }
  | close (w : World) (id : ConnectionId) :
      Step w { w with calls := w.calls ++ [.close id .called] }
  | advance (w : World) (n : Nat) : Step w (w.advance n)
  | aside (w : World) (op : Operation) (ha : op.isAside) (hf : op.Fresh w.registry) :
      Step w { w with registry := op.perform w.registry }
  | gate (w : World) (id : ConnectionId) (g : Gate GateParty) :
      Step w { w with registry := w.registry.update id fun c => { c with gate := g } }

def Later : World → World → Prop := Relation.ReflTransGen Step

theorem later_advances (ns : List Nat) (w : World) : Later w (ns.foldl advance w) := by
  induction ns generalizing w with
  | nil => exact .refl
  | cons n ns ih => exact .head (.advance w n) (ih (w.advance n))

def Reachable (config : RegistryConfig) (capacity : Nat) : World → Prop :=
  Later ⟨.new config capacity, []⟩

end World

/-- What is done aside from calls leaves alone what connections own and what the bus has for them. -/
structure Aside (r r' : Registry) : Prop extends Evolves r r' where
  table : r'.bus.table = r.bus.table
  owned : ∀ id, r'.ownedBy id = r.ownedBy id
  consistent : ∀ pending, Consistent r pending → Consistent r' pending

namespace Aside

variable {r r' : Registry}

theorem of_quiet (h : Evolves r r') (hq : Quiet r r') : Aside r r' :=
  ⟨h, hq.table, hq.owned, fun _ hc => hc.quiet hq⟩

theorem perform {op : Operation} (ha : op.isAside = true) (hf : op.Fresh r) :
    Aside r (op.perform r) := by
  have hev := Evolves.perform hf
  cases op with
  | register id session clock =>
    simp only [Operation.perform]
    cases hr : r.register id session clock with
    | error e => exact of_quiet (.refl r) (.refl r)
    | ok r' =>
      obtain ⟨-, -, hbus, -, -, howned⟩ := register_eq hf hr
      exact ⟨.register hf hr, congrArg Bus.table hbus, howned, fun _ hc => hc.register hf hr⟩
  | subscribe | unsubscribe | close | closeAll => cases ha
  | enqueue id frame =>
    simp only [Operation.perform]
    cases he : r.enqueue id frame with
    | error e => exact of_quiet (.refl r) (.refl r)
    | ok x => exact of_quiet (.enqueue he) (.enqueue he)
  | popFrame id => exact of_quiet hev (.update fun _ _ => rfl)
  | cancel id => exact of_quiet hev (.update fun _ _ => rfl)
  | publish e => exact of_quiet hev (.publish e)
  | tryPublish e => exact of_quiet hev (.tryPublish e)
  | dispatch => exact of_quiet hev .dispatch
  | deliver => exact of_quiet hev .deliver

end Aside

end Fanout.Registry
