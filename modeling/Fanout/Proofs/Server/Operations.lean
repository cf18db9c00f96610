import Fanout.Proofs.Bus.Holders
import Fanout.Server.Registry

/-!
Runs of the registry, and what its operations do to the filters that connections own. Its bus is
used through the registry alone and is not shut down.
-/
namespace Fanout

theorem Connection.enqueue_owned (c : Connection) (frame : String) :
    (c.enqueue frame).2.owned = c.owned := by
  rcases hp : c.queue.push frame with ⟨o, q⟩
  simp only [Connection.enqueue, hp]
  cases o <;> rfl

namespace Registry

/-- The loop of the bus takes one step, if it can. -/
def dispatch (r : Registry) : Registry :=
  match r.bus.stepLoop forward r.connections with
  | some (bus, connections) => { r with bus, connections }
  | none => r

inductive Operation where
  | register (id : ConnectionId) (session : Option String) (clock : Nat)
  | subscribe (now : Time.Timestamp) (id : ConnectionId) (f : Filter)
  | unsubscribe (id : ConnectionId) (f : Filter)
  | enqueue (id : ConnectionId) (frame : String)
  /-- The writer of a connection takes a frame. -/
  | popFrame (id : ConnectionId)
  | cancel (id : ConnectionId)
  | close (id : ConnectionId)
  | closeAll
  | publish (e : Event)
  | tryPublish (e : Event)
  | dispatch
  | deliver

def afterCall {α : Type} (r : Registry) : Except RegistryError (α × Registry) → Registry
  | .ok (_, r') => r'
  | .error _ => r

namespace Operation

/-- Performs an operation. One that is refused changes nothing. -/
def perform : Operation → Registry → Registry
  | .register id session clock, r => r.afterCall ((r.register id session clock).map ((), ·))
  | .subscribe now id f, r => r.afterCall (r.subscribe now id f)
  | .unsubscribe id f, r => r.afterCall (r.unsubscribe id f)
  | .enqueue id frame, r => r.afterCall (r.enqueue id frame)
  | .popFrame id, r => r.update id fun c => c.popFrame.2
  | .cancel id, r => r.update id Connection.cancel
  | .close id, r => (r.close id).2
  | .closeAll, r => r.closeAll
  | .publish e, r => (r.publish e).2
  | .tryPublish e, r => { r with bus := (r.bus.tryPublish e).2 }
  | .dispatch, r => r.dispatch
  | .deliver, r => r.deliver

/-- A connection is admitted under an identifier that none has had. -/
def Fresh : Operation → Registry → Prop
  | .register id _ _, r => r.connection? id = none
  | _, _ => True

end Operation

inductive Reachable (config : RegistryConfig) (capacity : Nat) : Registry → Prop
  | start : Reachable config capacity (.new config capacity)
  | step {r : Registry} (h : Reachable config capacity r) (op : Operation) (hf : op.Fresh r) :
    Reachable config capacity (op.perform r)

def ownedBy (r : Registry) (id : ConnectionId) : List (Filter × SubscriptionId) :=
  (r.connection? id).elim [] Connection.owned

/-- What a connection owns, as subscriptions of which it is the handler. -/
def heldBy (r : Registry) (id : ConnectionId) : List (Bus.Grant ConnectionId) :=
  (r.ownedBy id).map fun p => ⟨p.2, p.1, id⟩

/-- What all connections own, also those that are gone. -/
def held (r : Registry) : List (Bus.Grant ConnectionId) :=
  (Keyed.keys r.connections).flatMap r.heldBy

variable {r r' : Registry} {id : ConnectionId}

theorem isLive_iff : r.isLive id = true ↔ id ∈ r.live := List.contains_iff_mem

theorem ownedBy_of_connection? {c : Connection} (h : r.connection? id = some c) :
    r.ownedBy id = c.owned := by
  simp [ownedBy, h]

theorem connection?_update (f : Connection → Connection) (j : ConnectionId) :
    (r.update id f).connection? j = if j = id then (r.connection? j).map f else r.connection? j :=
  Keyed.get?_modify f

theorem ownedBy_update_of_ne (f : Connection → Connection) {j : ConnectionId} (h : j ≠ id) :
    (r.update id f).ownedBy j = r.ownedBy j := by
  rw [ownedBy, connection?_update, if_neg h, ownedBy]

theorem ownedBy_update_self {c : Connection} (f : Connection → Connection)
    (h : r.connection? id = some c) : (r.update id f).ownedBy id = (f c).owned := by
  rw [ownedBy, connection?_update, if_pos rfl, h]
  rfl

/-- A connection comes last, and without filters. -/
theorem register_eq {session : Option String} {clock : Nat} (hid : r.connection? id = none)
    (hr : r.register id session clock = .ok r') :
    r.live.length < r.config.maxConnections ∧ r'.config = r.config ∧ r'.bus = r.bus ∧
      Keyed.keys r'.connections = Keyed.keys r.connections ++ [id] ∧ r'.live = r.live ++ [id] ∧
      ∀ j, r'.ownedBy j = r.ownedBy j := by
  unfold register at hr
  split_ifs at hr with hroom
  obtain rfl := Except.ok.inj hr
  refine ⟨Nat.lt_of_not_le hroom, rfl, rfl, ?_, rfl, fun j => ?_⟩
  · exact Keyed.keys_put.trans (if_neg (Keyed.get?_eq_none_iff.mp hid))
  · by_cases hj : j = id
    · have hnone : r.ownedBy id = [] := by simp [ownedBy, hid]
      rw [hj, hnone]
      exact congrArg (Option.elim · [] Connection.owned) Keyed.get?_put_self
    · exact congrArg (Option.elim · [] Connection.owned) (Keyed.get?_put_of_ne hj)

/-- A subscription is one that the connection has, or one that the limits allow and that the bus has
made. -/
theorem subscribeOn_cases {now : Time.Timestamp} {f : Filter} {o : SubscribeOutcome}
    (hs : r.subscribeOn now id f = .ok (o, r')) :
    (∃ c sub, o = .existing sub ∧ r.connection? id = some c ∧ c.cancelled = false ∧
      c.subscriptionFor f = some sub ∧ r' = r) ∨
    ∃ c sub bus, o = .created sub ∧ r.connection? id = some c ∧ c.cancelled = false ∧
      c.subscriptionFor f = none ∧ c.owned.length < r.config.maxSubscriptions ∧
      (f.isFirehose → c.firehoseCount < r.config.maxFirehose) ∧
      r.bus.subscribe now f id = .ok (sub, bus) ∧
      r' = ({ r with bus } : Registry).update id fun c =>
        { c with owned := Keyed.put f sub c.owned } := by
  unfold subscribeOn at hs
  split at hs
  · cases hs
  · rename_i c hc
    by_cases hclosed : c.isClosed
    · rw [if_pos hclosed] at hs
      cases hs
    rw [if_neg hclosed] at hs
    have hopen : c.cancelled = false := by simpa [Connection.isClosed] using hclosed
    split at hs
    · rename_i sub hf
      obtain ⟨rfl, rfl⟩ := Prod.mk.inj (Except.ok.inj hs)
      exact .inl ⟨c, sub, rfl, hc, hopen, hf, rfl⟩
    · rename_i hf
      split_ifs at hs with hlen hfire
      split at hs
      · cases hs
      · rename_i sub bus hb
        obtain ⟨rfl, rfl⟩ := Prod.mk.inj (Except.ok.inj hs)
        refine .inr ⟨c, sub, bus, rfl, hc, hopen, hf, Nat.lt_of_not_le hlen, fun h => ?_, hb, rfl⟩
        simpa [h] using hfire

theorem disown_cases (r : Registry) (id : ConnectionId) (f : Filter) :
    r.disown id f = (none, r) ∨
    ∃ c sub, r.connection? id = some c ∧ c.subscriptionFor f = some sub ∧
      r.disown id f =
        (some sub, r.update id fun c => { c with owned := Keyed.erase f c.owned }) := by
  unfold disown
  cases h : (r.connection? id).bind (·.subscriptionFor f) with
  | none => exact .inl rfl
  | some sub =>
    obtain ⟨c, hc, hf⟩ := Option.bind_eq_some_iff.mp h
    exact .inr ⟨c, sub, hc, hf, rfl⟩

theorem disown_fst (r : Registry) (id : ConnectionId) (f : Filter) :
    (r.disown id f).1 = Keyed.get? f (r.ownedBy id) := by
  unfold disown ownedBy
  cases hc : r.connection? id with
  | none => rfl
  | some c =>
    change _ = c.subscriptionFor f
    cases hf : c.subscriptionFor f with
    | none => simp [hf]
    | some sub => simp [hf]

theorem unregister_eq (h : r.unregister id = (true, r')) :
    r'.config = r.config ∧ r'.live = r.live.filter (· ≠ id) ∧ r'.ownedBy = r.ownedBy := by
  unfold unregister at h
  split_ifs at h
  · obtain rfl := (Prod.mk.inj h).2
    exact ⟨rfl, rfl, rfl⟩
  · cases h

theorem foldl_unsubscribeBus (subs : List SubscriptionId) (r : Registry) :
    subs.foldl unsubscribeBus r =
      { r with bus := subs.foldl (fun b sub => (b.unsubscribe sub).2) r.bus } := by
  induction subs generalizing r with
  | nil => rfl
  | cons sub rest ih => exact ih _

theorem disownAll_subs (r : Registry) (id : ConnectionId) :
    (r.disownAll id).1 = (r.ownedBy id).map Prod.snd := by
  unfold disownAll ownedBy
  cases r.connection? id <;> rfl

theorem disownAll_frame (r : Registry) (id : ConnectionId) :
    (r.disownAll id).2.config = r.config ∧ (r.disownAll id).2.live = r.live ∧
      (r.disownAll id).2.ownedBy id = [] ∧
      ∀ j, j ≠ id → (r.disownAll id).2.ownedBy j = r.ownedBy j := by
  unfold disownAll
  cases hc : r.connection? id with
  | none => exact ⟨rfl, rfl, by simp [ownedBy, hc], fun _ _ => rfl⟩
  | some c =>
    refine ⟨rfl, rfl, ?_, fun j hj => ?_⟩
    · exact ownedBy_update_self (fun c => { c with owned := [] }) hc
    · exact ownedBy_update_of_ne (fun c => { c with owned := [] }) hj

theorem dropSubscriptions_eq (r : Registry) (id : ConnectionId) :
    r.dropSubscriptions id = (r.disownAll id).1.foldl unsubscribeBus (r.disownAll id).2 := rfl

theorem dropSubscriptions_frame (r : Registry) (id : ConnectionId) :
    (r.dropSubscriptions id).config = r.config ∧ (r.dropSubscriptions id).live = r.live ∧
      (r.dropSubscriptions id).ownedBy id = [] ∧
      ∀ j, j ≠ id → (r.dropSubscriptions id).ownedBy j = r.ownedBy j := by
  rw [dropSubscriptions_eq, foldl_unsubscribeBus]
  exact r.disownAll_frame id

/-- Who is there, what they own and what the bus has are the same. -/
structure Quiet (r r' : Registry) : Prop where
  config : r'.config = r.config
  live : r'.live = r.live
  table : r'.bus.table = r.bus.table
  nextId : r'.bus.nextId = r.bus.nextId
  keys : Keyed.keys r'.connections = Keyed.keys r.connections
  owned : ∀ id, r'.ownedBy id = r.ownedBy id

namespace Quiet

theorem refl (r : Registry) : Quiet r r := ⟨rfl, rfl, rfl, rfl, rfl, fun _ => rfl⟩

theorem trans {r'' : Registry} (h : Quiet r r') (h' : Quiet r' r'') : Quiet r r'' where
  config := h'.config.trans h.config
  live := h'.live.trans h.live
  table := h'.table.trans h.table
  nextId := h'.nextId.trans h.nextId
  keys := h'.keys.trans h.keys
  owned := fun id => (h'.owned id).trans (h.owned id)

theorem of_bus {b : Bus ConnectionId} (ht : b.table = r.bus.table)
    (hn : b.nextId = r.bus.nextId) : Quiet r { r with bus := b } :=
  ⟨rfl, rfl, ht, hn, rfl, fun _ => rfl⟩

theorem update {f : Connection → Connection}
    (hf : ∀ c, r.connection? id = some c → (f c).owned = c.owned) : Quiet r (r.update id f) where
  config := rfl
  live := rfl
  table := rfl
  nextId := rfl
  keys := Keyed.keys_modify f
  owned := fun j => by
    by_cases hj : j = id
    · subst hj
      cases hc : r.connection? j with
      | none => simp [ownedBy, connection?_update, hc]
      | some c => rw [ownedBy_update_self f hc, hf c hc, ownedBy_of_connection? hc]
    · exact ownedBy_update_of_ne f hj

theorem beginClose : Quiet r (r.beginClose id) := update fun _ _ => rfl

theorem endClose : Quiet r ((r.endClose id).getD r) := by
  cases h : r.endClose id with
  | none => exact refl r
  | some r' =>
    unfold Registry.endClose at h
    obtain ⟨c, hc, h⟩ := Option.bind_eq_some_iff.mp h
    obtain ⟨c', hc', h⟩ := Option.bind_eq_some_iff.mp h
    rw [Option.getD_some, ← Option.some.inj h]
    refine update fun d hd => ?_
    obtain rfl : c = d := Option.some.inj (hc.symm.trans hd)
    unfold Connection.endClose at hc'
    split_ifs at hc'
    rw [← Option.some.inj hc']

theorem enqueue {frame : String} {o : PushOutcome} (h : r.enqueue id frame = .ok (o, r')) :
    Quiet r r' := by
  unfold Registry.enqueue Registry.get? at h
  split at h
  · cases h
  · rename_i c hc
    have hconn : r.connection? id = some c := by
      split_ifs at hc
      exact hc
    rw [← (Prod.mk.inj (Except.ok.inj h)).2]
    refine update fun d hd => ?_
    obtain rfl : c = d := Option.some.inj (hconn.symm.trans hd)
    exact c.enqueue_owned frame

/-- A handler queues a frame, which leaves the connection its filters. -/
theorem stepLoop {bus : Bus ConnectionId} {connections : Connections}
    (h : r.bus.stepLoop forward r.connections = some (bus, connections)) :
    Quiet r { r with bus, connections } := by
  obtain ⟨d, -, -, rfl, rfl⟩ | ⟨d, sub, conn, rest, o, b, hd, -, hreact, rfl⟩ |
    ⟨e, c, -, -, rfl, rfl⟩ | ⟨-, -, rfl, rfl⟩ := Bus.stepLoop_cases h
  · exact of_bus rfl rfl
  · simp only [forward, Bus.takeFrame, Option.map_some] at hreact
    obtain ⟨-, hb, hconns⟩ : _ ∧ _ = b ∧ _ = connections := by simpa using hreact
    obtain ⟨n, m, t, ho⟩ := Bus.recordOutcome_eq b sub d.event.type o
    rw [ho, ← hb, ← hconns]
    have hu : Quiet r (r.update conn fun c => (c.enqueue d.event.frame).2) :=
      update fun c _ => c.enqueue_owned _
    exact hu.trans (of_bus rfl rfl)
  · exact of_bus rfl rfl
  · exact of_bus rfl rfl

theorem runLoop (fuel : Nat) : Quiet r { r with
    bus := (r.bus.runLoop forward fuel r.connections).1
    connections := (r.bus.runLoop forward fuel r.connections).2 } := by
  induction fuel generalizing r with
  | zero => exact refl r
  | succ fuel ih =>
    cases hs : r.bus.stepLoop forward r.connections with
    | none => simpa only [Bus.runLoop, hs] using refl r
    | some x =>
      obtain ⟨bus, connections⟩ := x
      simp only [Bus.runLoop, hs]
      exact (stepLoop hs).trans (ih (r := { r with bus, connections }))

theorem deliver : Quiet r r.deliver := runLoop r.bus.backlog

theorem publish (e : Event) : Quiet r (r.publish e).2 := by
  unfold Registry.publish
  split
  · exact refl r
  · rename_i b ha
    obtain ⟨c, -, -, rfl⟩ := Bus.acquire_eq ha
    split
    · rename_i b hp
      obtain ⟨c, -, rfl⟩ := Bus.place_eq hp
      exact of_bus rfl rfl
    · have hw : Quiet r { r with bus := Bus.awaitRoom { r.bus with channel := c } } :=
        of_bus rfl rfl
      have hd := hw.trans deliver
      dsimp only
      split
      · rename_i b hp
        obtain ⟨c, -, rfl⟩ := Bus.placeReserved_eq hp
        exact hd.trans (of_bus rfl rfl)
      · exact hd.trans (of_bus rfl rfl)

theorem tryPublish (e : Event) : Quiet r { r with bus := (r.bus.tryPublish e).2 } := by
  obtain ⟨c, t, p, -, hx⟩ | ⟨x, c, t, -, hx⟩ := r.bus.tryPublish_cases e <;> rw [hx] <;>
    exact of_bus rfl rfl

theorem dispatch : Quiet r r.dispatch := by
  unfold Registry.dispatch
  split
  · exact stepLoop ‹_›
  · exact refl r

theorem held (h : Quiet r r') : r'.held = r.held := by
  unfold Registry.held
  rw [h.keys]
  refine List.flatMap_congr fun id _ => ?_
  rw [heldBy, heldBy, h.owned]

end Quiet

theorem close_frame (r : Registry) (id : ConnectionId) :
    (r.close id).1 = r.isLive id ∧ (r.close id).2.config = r.config ∧
      (r.close id).2.live = r.live.filter (· ≠ id) ∧
      (r.close id).2.ownedBy id = (if r.isLive id then [] else r.ownedBy id) ∧
      ∀ j, j ≠ id → (r.close id).2.ownedBy j = r.ownedBy j := by
  by_cases hid : r.isLive id = true
  · obtain ⟨r₁, hr₁⟩ : ∃ r₁, r.unregister id = (true, r₁) := ⟨_, if_pos hid⟩
    obtain ⟨hconfig, hlive, howned⟩ := unregister_eq hr₁
    have hquiet : Quiet r₁ (((r₁.beginClose id).endClose id).getD (r₁.beginClose id)) :=
      Quiet.beginClose.trans Quiet.endClose
    obtain ⟨hdconfig, hdlive, hdself, hdother⟩ := dropSubscriptions_frame
      (((r₁.beginClose id).endClose id).getD (r₁.beginClose id)) id
    simp only [close, hr₁]
    refine ⟨hid.symm, hdconfig.trans (hquiet.config.trans hconfig),
      hdlive.trans (hquiet.live.trans hlive), hdself.trans (if_pos hid).symm, fun j hj => ?_⟩
    rw [hdother j hj, hquiet.owned j, howned]
  · have hr : r.unregister id = (false, r) := if_neg hid
    have hlive : r.live.filter (· ≠ id) = r.live := by
      refine List.filter_eq_self.mpr fun j hj => ?_
      have hne : j ≠ id := fun he => hid (isLive_iff.mpr (he ▸ hj))
      simpa using hne
    have hclose : r.close id = (false, r) := by simp only [close, hr]
    rw [hclose]
    exact ⟨((Bool.not_eq_true _).mp hid).symm, rfl, hlive.symm, (if_neg hid).symm, fun _ _ => rfl⟩

/-- Closing connections one after another leaves the others. -/
theorem live_foldl_close (ids : List ConnectionId) (r : Registry) :
    (ids.foldl (fun r id => (r.close id).2) r).live = r.live.filter (· ∉ ids) := by
  induction ids generalizing r with
  | nil => simp
  | cons id rest ih =>
    rw [List.foldl_cons, ih, (r.close_frame id).2.2.1, List.filter_filter]
    refine List.filter_congr fun j _ => ?_
    simp [Bool.and_comm]

theorem live_closeAll (r : Registry) : r.closeAll.live = [] := by
  rw [closeAll, live_foldl_close]
  exact List.filter_eq_nil_iff.mpr fun j hj => by simpa using hj

end Registry

end Fanout
