import Fanout.Proofs.Server.Carriage

/-!
What a connection gets to see. Main statement: the frames of events that its writer has taken and
those that still wait are, in the order of publishing, the copies due to its filters, less those
evicted to make room, and every eviction is counted.
-/
namespace Fanout.Registry

variable {r r' : Registry} {id : ConnectionId}

/-- The history tells what connections have been offered and have got. -/
structure Kept (x : Recorded) : Prop where
  consistent : Consistent x.registry []
  queue : x.history.accepted = x.history.turns.map Turn.event ++ x.registry.bus.channel.items
  turn : x.registry.bus.counters.dispatched = x.history.turns.length
  known : ∀ d, x.registry.bus.current = some d →
    ∀ p ∈ d.targets, p.2 ∈ Keyed.keys x.registry.connections
  offered : ∀ id, (x.history.parcels id).filterMap Parcel.event? ++ pendingFor x.registry.bus id =
    x.history.due id
  unknown : ∀ id, id ∉ Keyed.keys x.registry.connections →
    (∀ t ∈ x.history.turns, t.held id = []) ∧ x.history.parcels id = [] ∧ x.history.handed id = []
  since : ∀ id, x.history.since id ≤ x.history.turns.length ∧
    ∀ t ∈ x.history.turns.take (x.history.since id), t.held id = []
  carried : ∀ id c, x.registry.get? id = some c → c.queue.policy = .dropOldest →
    Carried c.queue (x.history.parcels id) (x.history.handed id)

namespace Kept

variable {x : Recorded}

theorem start (config : RegistryConfig) (capacity : Nat) :
    Kept ⟨.new config capacity, {}⟩ where
  consistent := .new config capacity
  queue := rfl
  turn := rfl
  known := by simp [Registry.new, Bus.new]
  offered := fun _ => rfl
  unknown := by simp
  since := by simp
  carried := by simp [Registry.new, get?, isLive]

theorem still (h : Kept x) (hc : Consistent r' []) (s : Still x.registry r') :
    Kept ⟨r', x.history⟩ where
  consistent := hc
  queue := by
    rw [s.items]
    exact h.queue
  turn := s.dispatched.trans h.turn
  known := by
    rw [s.current, s.keys]
    exact h.known
  offered := fun id => by
    rw [pendingFor_congr s.current s.dispatched]
    exact h.offered id
  unknown := fun id hid => h.unknown id (s.keys ▸ hid)
  since := h.since
  carried := fun id c' hc' hpolicy => by
    obtain ⟨c, hc, hq⟩ := s.queues id c' hc'
    rw [hq] at hpolicy ⊢
    exact h.carried id c hc hpolicy

/-- A change of the bus alone. -/
theorem withBus (h : Kept x) {b : Bus ConnectionId} (ht : b.table = x.registry.bus.table)
    (hn : b.nextId = x.registry.bus.nextId)
    (hi : b.channel.items = x.registry.bus.channel.items)
    (hc : b.current = x.registry.bus.current)
    (hd : b.counters.dispatched = x.registry.bus.counters.dispatched) : Kept (x.withBus b) :=
  h.still (h.consistent.quiet (.of_bus ht hn)) (.of_bus hi hc hd)

/-- An event comes last on the queue. -/
theorem accept (h : Kept x) {e : Event} {b : Bus ConnectionId}
    (ht : b.table = x.registry.bus.table) (hn : b.nextId = x.registry.bus.nextId)
    (hi : b.channel.items = x.registry.bus.channel.items ++ [e])
    (hc : b.current = x.registry.bus.current)
    (hd : b.counters.dispatched = x.registry.bus.counters.dispatched) : Kept (x.accept e b) where
  consistent := h.consistent.quiet (.of_bus ht hn)
  queue := by
    change x.history.accepted ++ [e] = x.history.turns.map Turn.event ++ b.channel.items
    rw [hi, h.queue, List.append_assoc]
  turn := hd.trans h.turn
  known := fun d hd => h.known d (hc.symm.trans hd)
  offered := fun id => by
    change _ ++ pendingFor b id = _
    rw [pendingFor_congr hc hd]
    exact h.offered id
  unknown := h.unknown
  since := h.since
  carried := h.carried

/-- A new connection has been offered nothing, and nothing before it was due to it. -/
theorem register (h : Kept x) {id : ConnectionId} {session : Option String} {clock : Nat}
    (hid : x.registry.connection? id = none) : Kept (x.register id session clock) := by
  unfold Recorded.register
  split
  · rename_i r' hr
    obtain ⟨-, -, hbus, hk, hl, -⟩ := register_eq hid hr
    obtain ⟨hturns, hparcels, hhanded⟩ := h.unknown id (Keyed.get?_eq_none_iff.mp hid)
    refine ⟨h.consistent.register hid hr, by rw [hbus]; exact h.queue, by rw [hbus]; exact h.turn,
      fun d hd p hp => ?_, by rw [hbus]; exact h.offered, fun j hj => ?_, fun j => ?_,
      fun j c hc hpolicy => ?_⟩
    · rw [hk]
      exact List.mem_append_left _ (h.known d (hbus ▸ hd) p hp)
    · rw [hk] at hj
      exact h.unknown j fun hm => hj (List.mem_append_left _ hm)
    · by_cases hj : j = id
      · subst hj
        simpa using hturns
      · simpa [hj] using h.since j
    · unfold Registry.register at hr
      split_ifs at hr
      obtain rfl := Except.ok.inj hr
      obtain ⟨hlive, hc⟩ := get?_eq_some_iff.mp hc
      by_cases hj : j = id
      · subst hj
        obtain rfl := Option.some.inj (Keyed.get?_put_self.symm.trans hc)
        change Carried _ (x.history.parcels j) (x.history.handed j)
        rw [hparcels, hhanded]
        exact .new _ _
      · have hlive' : j ∈ x.registry.live := by simpa [gaugeConnections, hj] using hlive
        have hc' : x.registry.connection? j = some c := (Keyed.get?_put_of_ne hj).symm.trans hc
        exact h.carried j c (get?_eq_some_iff.mpr ⟨hlive', hc'⟩) hpolicy
  · exact h

/-- One connection is offered a frame. -/
theorem carried_give (h : Kept x) {id : ConnectionId} {text : String} {outcome : PushOutcome}
    (source : Source) (hl : r'.live = x.registry.live)
    (hconn : ∀ j, r'.connection? j =
      if j = id then (x.registry.connection? j).map fun c => (c.enqueue text).2
      else x.registry.connection? j)
    (ho : ∀ c, x.registry.connection? id = some c → outcome = (c.enqueue text).1)
    (j : ConnectionId) (c' : Connection) (hc' : r'.get? j = some c')
    (hpolicy : c'.queue.policy = .dropOldest) :
    Carried c'.queue ((x.history.give id source text outcome).parcels j) (x.history.handed j) := by
  obtain ⟨hlive, hc'⟩ := get?_eq_some_iff.mp hc'
  rw [hl] at hlive
  rw [hconn] at hc'
  split_ifs at hc' with hj
  · subst hj
    obtain ⟨c, hc, rfl⟩ := Option.map_eq_some_iff.mp hc'
    obtain ⟨houtcome, hqueue⟩ := c.enqueue_eq text
    rw [hqueue, OutboundQueue.push_policy] at hpolicy
    have hcarried := h.carried j c (get?_eq_some_iff.mpr ⟨hlive, hc⟩) hpolicy
    rw [hqueue, ho c hc, houtcome, History.give]
    simpa using hcarried.push hpolicy source text
  · simpa [History.give, hj] using h.carried j c' (get?_eq_some_iff.mpr ⟨hlive, hc'⟩) hpolicy

theorem enqueue (h : Kept x) (id : ConnectionId) (frame : String) : Kept (x.enqueue id frame) := by
  unfold Recorded.enqueue
  split
  · rename_i outcome r' hr
    have hconsistent := h.consistent.quiet (.enqueue hr)
    obtain ⟨c, hc, rfl, rfl⟩ := enqueue_eq hr
    obtain ⟨hlive, hc⟩ := get?_eq_some_iff.mp hc
    have hkeys : Keyed.keys (x.registry.update id fun _ => (c.enqueue frame).2).connections =
        Keyed.keys x.registry.connections := Keyed.keys_modify _
    refine ⟨hconsistent, h.queue, h.turn, by rw [hkeys]; exact h.known, fun j => ?_,
      fun j hj => ?_, h.since, h.carried_give .reply rfl (fun j => ?_) fun d hd => ?_⟩
    · refine .trans (congrArg (· ++ pendingFor x.registry.bus j) ?_) (h.offered j)
      by_cases hj : j = id
      · subst hj
        simp [History.give, Parcel.filterMap_event?_offer _ _ _ _ .waiting, Parcel.event?]
      · simp [History.give, hj]
    · rw [hkeys] at hj
      have hne : j ≠ id := by
        rintro rfl
        exact hj (Keyed.mem_keys_iff.mpr ⟨c, hc⟩)
      simpa [History.give, hne] using h.unknown j hj
    · rw [connection?_update]
      split_ifs with hj
      · subst hj
        simp [hc]
      · rfl
    · obtain rfl : c = d := Option.some.inj (hc.symm.trans hd)
      rfl
  · exact h

theorem popFrame (h : Kept x) (id : ConnectionId) : Kept (x.popFrame id) := by
  have hquiet : Quiet x.registry (x.registry.update id fun c => c.popFrame.2) :=
    .update fun _ _ => rfl
  cases hc : x.registry.connection? id with
  | none =>
    have hstill : Still x.registry (x.registry.update id fun c => c.popFrame.2) :=
      .update fun _ c hc' => by simp [hc] at hc'
    simpa [Recorded.popFrame, hc, History.take] using
      h.still (h.consistent.quiet hquiet) hstill
  | some c =>
    have hkeys : Keyed.keys (x.registry.update id fun c => c.popFrame.2).connections =
        Keyed.keys x.registry.connections := Keyed.keys_modify _
    have hparcels : ∀ j, (x.history.take id c.popFrame.1).parcels j =
        if j = id ∧ c.popFrame.1.isSome then Parcel.resolve .taken (x.history.parcels j)
        else x.history.parcels j := by
      intro j
      cases c.popFrame.1 <;> by_cases hj : j = id <;> simp [History.take, hj]
    have hhanded : ∀ j, (x.history.take id c.popFrame.1).handed j =
        if j = id then x.history.handed j ++ c.popFrame.1.toList else x.history.handed j := by
      intro j
      cases c.popFrame.1 <;> by_cases hj : j = id <;> simp [History.take, hj]
    have hrest : (x.history.take id c.popFrame.1).accepted = x.history.accepted ∧
        (x.history.take id c.popFrame.1).turns = x.history.turns ∧
        (x.history.take id c.popFrame.1).since = x.history.since := by
      cases c.popFrame.1 <;> exact ⟨rfl, rfl, rfl⟩
    obtain ⟨haccepted, hturns, hsince⟩ := hrest
    simp only [Recorded.popFrame, hc, Option.bind_some]
    refine ⟨h.consistent.quiet hquiet, ?_, ?_, by rw [hkeys]; exact h.known, fun j => ?_,
      fun j hj => ?_, ?_, fun j c' hc' hpolicy => ?_⟩
    · rw [haccepted, hturns]
      exact h.queue
    · rw [hturns]
      exact h.turn
    · rw [hparcels, History.due, hturns]
      split_ifs
      · rw [Parcel.filterMap_event?_resolve]
        exact h.offered j
      · exact h.offered j
    · rw [hkeys] at hj
      have hne : j ≠ id := by
        rintro rfl
        exact hj (Keyed.mem_keys_iff.mpr ⟨c, hc⟩)
      simpa [hparcels, hhanded, hturns, hne] using h.unknown j hj
    · rw [hturns, hsince]
      exact h.since
    · obtain ⟨hlive, hconn⟩ := get?_eq_some_iff.mp hc'
      rw [connection?_update] at hconn
      rw [hparcels, hhanded]
      split_ifs at hconn with hj
      · subst hj
        rw [hc] at hconn
        obtain rfl := Option.some.inj hconn
        have hp : c.queue.policy = .dropOldest := by
          have hsame : c.queue.pop.2.policy = c.queue.policy := by
            unfold OutboundQueue.pop
            split_ifs <;> rfl
          exact hsame.symm.trans hpolicy
        simpa [Connection.popFrame] using (h.carried j c (get?_eq_some_iff.mpr ⟨hlive, hc⟩) hp).pop
      · simpa [hj] using h.carried j c' (get?_eq_some_iff.mpr ⟨hlive, hconn⟩) hpolicy

/-- The loop takes an event off the queue. -/
theorem dispatching (h : Kept x) {e : Event} {c : Channel Event}
    (hcurrent : x.registry.bus.current = none)
    (hc : x.registry.bus.channel.receive = some (e, c)) :
    Kept ⟨{ x.registry with bus := x.registry.bus.dispatching e c }, { x.history with
      turns := x.history.turns ++ [⟨e, fun id => Keyed.keys (x.registry.ownedBy id)⟩] }⟩ where
  consistent := h.consistent.quiet (.of_bus rfl rfl)
  queue := by
    have hqueue := h.queue
    rw [Channel.receive_eq hc] at hqueue
    simp [hqueue, Bus.dispatching]
  turn := by simp [Bus.dispatching, h.turn]
  known := by
    intro d hd p hp
    obtain rfl := Option.some.inj hd
    rw [Bus.targets_eq_grants] at hp
    obtain ⟨g, hg, rfl⟩ := List.mem_map.mp hp
    have hheld := h.consistent.backs.grants_perm.mem_iff.mp (List.mem_of_mem_filter hg)
    rw [List.append_nil] at hheld
    obtain ⟨j, hj, hg⟩ := List.mem_flatMap.mp hheld
    obtain ⟨q, -, rfl⟩ := List.mem_map.mp hg
    exact hj
  offered := fun id => by
    have hoffered := h.offered id
    have hlength := length_targets_filter h.consistent e id
    simp only [pendingFor, hcurrent, List.append_nil] at hoffered
    simp only [History.due, copiesDue, List.zipIdx_append, List.flatMap_append]
    rw [hoffered]
    congr 1
    simp [pendingFor, Bus.dispatching, Turn.copies, h.turn, List.map_const', hlength, Nat.add_comm]
  unknown := fun id hid => by
    obtain ⟨hturns, hrest⟩ := h.unknown id hid
    refine ⟨fun t ht => ?_, hrest⟩
    rcases List.mem_append.mp ht with hold | hlast
    · exact hturns t hold
    · have hnone : x.registry.connection? id = none := Keyed.get?_eq_none_iff.mpr hid
      rw [List.mem_singleton.mp hlast]
      simp [ownedBy, hnone, Keyed.keys]
  since := fun id => by
    obtain ⟨hle, hsince⟩ := h.since id
    refine ⟨Nat.le_trans hle (by simp), fun t ht => hsince t ?_⟩
    rwa [List.take_append_of_le_length hle] at ht
  carried := h.carried

/-- The next handler in line offers the event's frame to its connection. -/
theorem forwarding (h : Kept x) {d : Dispatch ConnectionId} {sub : SubscriptionId}
    {id : ConnectionId} {rest : List (SubscriptionId × ConnectionId)}
    (hd : x.registry.bus.current = some d) (ht : d.targets = (sub, id) :: rest)
    {b : Bus ConnectionId} (hb : b = { x.registry.bus with
      current := some { d with targets := rest, encoded := true }
      counters := b.counters, telemetry := b.telemetry })
    (hn : b.counters.dispatched = x.registry.bus.counters.dispatched) :
    Kept ⟨{ x.registry with
        bus := b
        connections := Keyed.modify id (fun c => (c.enqueue d.event.frame).2)
          x.registry.connections },
      x.history.give id (.event x.registry.bus.counters.dispatched) d.event.frame
        ((x.registry.connection? id).elim .closed fun c => (c.enqueue d.event.frame).1)⟩ := by
  have hkeys : Keyed.keys (Keyed.modify id (fun c => (c.enqueue d.event.frame).2)
      x.registry.connections) = Keyed.keys x.registry.connections := Keyed.keys_modify _
  have hquiet : Quiet x.registry (x.registry.update id fun c => (c.enqueue d.event.frame).2) :=
    .update fun c _ => c.enqueue_owned _
  have hid : id ∈ Keyed.keys x.registry.connections :=
    h.known d hd (sub, id) (by simp [ht])
  have hcurrent : b.current = some { d with targets := rest, encoded := true } := by rw [hb]
  refine ⟨?_, ?_, hn.trans h.turn, fun d' hd' p hp => ?_, fun j => ?_, fun j hj => ?_, h.since,
    h.carried_give _ rfl (fun j => Keyed.get?_modify _) fun c hc => by simp [hc]⟩
  · refine h.consistent.quiet (hquiet.trans (.of_bus ?_ ?_))
    · rw [hb]
      rfl
    · rw [hb]
      rfl
  · have hitems : b.channel.items = x.registry.bus.channel.items := by rw [hb]
    change _ = _ ++ b.channel.items
    rw [hitems]
    exact h.queue
  · obtain rfl := Option.some.inj (hcurrent.symm.trans hd')
    change p.2 ∈ Keyed.keys (Keyed.modify id _ x.registry.connections)
    rw [hkeys]
    exact h.known d hd p (by rw [ht]; exact List.mem_cons_of_mem _ hp)
  · have hoffered := h.offered j
    simp only [pendingFor, hd, ht, List.filter_cons] at hoffered
    simp only [pendingFor, hcurrent, hn]
    refine .trans ?_ hoffered
    by_cases hj : j = id
    · subst hj
      simp [History.give, Parcel.filterMap_event?_offer _ _ _ _ .waiting, Parcel.event?]
    · simp [History.give, hj, Ne.symm hj]
  · have hj' : j ∉ Keyed.keys x.registry.connections := fun hm => hj (by rwa [hkeys])
    have hne : j ≠ id := by
      rintro rfl
      exact hj' hid
    simpa [History.give, hne] using h.unknown j hj'

/-- The last handler has returned. -/
theorem finishing (h : Kept x) {d : Dispatch ConnectionId} (hd : x.registry.bus.current = some d)
    (ht : d.targets = []) :
    Kept ⟨{ x.registry with bus := { x.registry.bus with current := none } }, x.history⟩ :=
  { h with
    consistent := h.consistent.quiet (.of_bus rfl rfl)
    known := fun _ hd' => nomatch hd'
    offered := fun id => by simpa [pendingFor, hd, ht] using h.offered id }

theorem dispatch (h : Kept x) : Kept x.dispatch := by
  unfold Recorded.dispatch
  split
  · rename_i bus connections hs
    obtain ⟨d, hd, ht, rfl, rfl⟩ | ⟨d, sub, id, rest, o, b, hd, ht, hreact, rfl⟩ |
      ⟨e, c, hd, hc, rfl, rfl⟩ | ⟨hd, -, rfl, rfl⟩ := Bus.stepLoop_cases hs
    · simpa only [History.noteStep, hd, ht] using h.finishing hd ht
    · simp only [forward, Bus.takeFrame, Option.map_some] at hreact
      obtain ⟨-, hb, hconns⟩ : _ ∧ _ = b ∧ _ = connections := by simpa using hreact
      obtain ⟨n, m, t, ho⟩ := Bus.recordOutcome_eq b sub d.event.type o
      simp only [History.noteStep, hd, ht]
      rw [ho, ← hb, ← hconns]
      exact h.forwarding hd ht rfl rfl
    · simpa [History.noteStep, hd, Bus.dispatching] using h.dispatching hd hc
    · simp only [History.noteStep, hd]
      exact h.withBus rfl rfl rfl hd.symm rfl
  · exact h

theorem deliver (h : Kept x) : Kept x.deliver := by
  unfold Recorded.deliver
  generalize x.registry.bus.backlog = n
  induction n generalizing x with
  | zero => exact h
  | succ n ih => exact ih h.dispatch

theorem publish (h : Kept x) (e : Event) : Kept (x.publish e) := by
  unfold Recorded.publish
  split
  · exact h
  · rename_i b ha
    obtain ⟨c, -, hc, rfl⟩ := Bus.acquire_eq ha
    split
    · rename_i b hp
      obtain ⟨c', hc', rfl⟩ := Bus.place_eq hp
      exact h.accept rfl rfl (hc'.trans (congrArg (· ++ [e]) hc)) rfl rfl
    · have hdelivered := (h.withBus (b := Bus.awaitRoom { x.registry.bus with channel := c })
        rfl rfl hc rfl rfl).deliver
      dsimp only
      split
      · rename_i b hp
        obtain ⟨c', hc', rfl⟩ := Bus.placeReserved_eq hp
        exact hdelivered.accept rfl rfl hc' rfl rfl
      · exact hdelivered.withBus rfl rfl rfl rfl rfl

theorem tryPublish (h : Kept x) (e : Event) : Kept (x.tryPublish e) := by
  unfold Recorded.tryPublish
  obtain ⟨c, t, p, hc, hb⟩ | ⟨err, c, t, hc, hb⟩ := x.registry.bus.tryPublish_cases e
  · rw [hb]
    exact h.accept rfl rfl hc rfl rfl
  · rw [hb]
    exact h.withBus rfl rfl hc rfl rfl

theorem beginClose (h : Kept x) (id : ConnectionId) :
    Kept ⟨(x.registry.unregister id).2.beginClose id, x.history⟩ :=
  h.still (h.consistent.beginClose id) .beginClose

theorem endClose (h : Kept x) (id : ConnectionId) :
    Kept ⟨((x.registry.endClose id).getD x.registry).dropSubscriptions id, x.history⟩ :=
  h.still (h.consistent.endClose id) .endClose

theorem close (h : Kept x) (id : ConnectionId) : Kept ⟨(x.registry.close id).2, x.history⟩ := by
  rw [close_eq]
  split_ifs
  · exact (h.beginClose id).endClose id
  · exact h

theorem closeAll (h : Kept x) : Kept ⟨x.registry.closeAll, x.history⟩ := by
  obtain ⟨r, history⟩ := x
  unfold Registry.closeAll
  generalize r.live = ids
  induction ids generalizing r with
  | nil => exact h
  | cons id rest ih => exact ih _ (h.close id)

theorem operate (h : Kept x) {op : Operation} (hf : op.Fresh x.registry) :
    Kept (x.operate op) := by
  cases op with
  | register id session clock => exact h.register hf
  | enqueue id frame => exact h.enqueue id frame
  | popFrame id => exact h.popFrame id
  | publish e => exact h.publish e
  | tryPublish e => exact h.tryPublish e
  | dispatch => exact h.dispatch
  | deliver => exact h.deliver
  | close id => exact h.close id
  | closeAll => exact h.closeAll
  | cancel id =>
    exact h.still (h.consistent.quiet (.update fun _ _ => rfl)) (.update fun _ _ _ => rfl)
  | subscribe now id f =>
    simp only [Recorded.operate, Operation.perform]
    cases hs : x.registry.subscribe now id f with
    | error e => exact h
    | ok y => exact h.still (h.consistent.subscribe hs) (.subscribe hs)
  | unsubscribe id f =>
    simp only [Recorded.operate, Operation.perform]
    cases hu : x.registry.unsubscribe id f with
    | error e => exact h
    | ok y => exact h.still (h.consistent.unsubscribe hu) (.unsubscribe hu)

theorem perform (h : Kept x) {a : Action} (ha : a.Allowed x.registry) : Kept (a.perform x) := by
  cases a with
  | operate op => exact h.operate ha
  | acquire =>
    simp only [Action.perform]
    split
    · rename_i b hb
      obtain ⟨c, -, hc, rfl⟩ := Bus.acquire_eq hb
      exact h.withBus rfl rfl hc rfl rfl
    · exact h
  | place e =>
    simp only [Action.perform]
    split
    · rename_i b hb
      obtain ⟨c, hc, rfl⟩ := Bus.place_eq hb
      exact h.accept rfl rfl hc rfl rfl
    · exact h
  | placeReserved e =>
    simp only [Action.perform]
    split
    · rename_i b hb
      obtain ⟨c, hc, rfl⟩ := Bus.placeReserved_eq hb
      exact h.accept rfl rfl hc rfl rfl
    · exact h
  | awaitRoom | recordPublished | release => exact h.withBus rfl rfl rfl rfl rfl
  | beginClose id => exact h.beginClose id
  | endClose id => exact h.endClose id
  | reorder entries => exact h.still (h.consistent.reorder ha) (.of_bus rfl rfl rfl)

theorem of_reachable {config : RegistryConfig} {capacity : Nat}
    (hx : x.Reachable config capacity) : Kept x := by
  induction hx with
  | start => exact start config capacity
  | step _ a ha ih => exact ih.perform ha

/-- Before it was admitted nothing was due to a connection. -/
theorem due_eq (h : Kept x) (id : ConnectionId) : x.history.due id = x.history.dueSince id := by
  have hbefore : copiesDue ((x.history.turns.zipIdx 1).take (x.history.since id)) id = [] := by
    refine List.flatMap_eq_nil_iff.mpr fun p hp => ?_
    have hturn : p.1 ∈ x.history.turns.take (x.history.since id) := by
      have hm := List.mem_map_of_mem hp (f := Prod.fst)
      rwa [List.map_take, List.zipIdx_map_fst] at hm
    simp [Turn.copies, (h.since id).2 p.1 hturn]
  have hsplit := List.take_append_drop (x.history.since id) (x.history.turns.zipIdx 1)
  rw [History.due, ← hsplit, copiesDue, List.flatMap_append]
  exact (congrArg (· ++ _) hbefore).trans (List.nil_append _)

/-- A dispatch that is over has offered all its copies. -/
theorem copies_eq (h : Kept x) (id : ConnectionId) {n : Nat} {t : Turn}
    (ht : x.history.turns[n]? = some t)
    (hover : x.registry.bus.current = none ∨ n + 1 < x.history.turns.length) :
    (((x.history.parcels id).filterMap Parcel.event?).filter fun p => p.1 = 1 + n) =
      t.copies (1 + n) id := by
  have hpending : ((pendingFor x.registry.bus id).filter fun p => p.1 = 1 + n) = [] := by
    unfold pendingFor
    split
    · rename_i d hd
      have hlt := hover.resolve_left (by simp [hd])
      refine List.filter_eq_nil_iff.mpr fun p hp he => ?_
      obtain ⟨-, -, rfl⟩ := List.mem_map.mp hp
      simp only [h.turn, decide_eq_true_eq] at he
      omega
    · rfl
  have hfilter := filter_copiesDue x.history.turns 1 n id
  rw [← History.due, ← h.offered id, List.filter_append, hpending, List.append_nil, ht] at hfilter
  exact hfilter

end Kept

def History.fated (h : History) (id : ConnectionId) (fate : Fate) : List Parcel :=
  (h.parcels id).filter fun p => p.fate = fate

/-- What has become of the frames offered to a connection. -/
structure Accounted (h : History) (id : ConnectionId) (c : Connection) : Prop where
  /-- The writer got the frames taken, and the queue has those that wait. -/
  handed : h.handed id = (h.fated id .taken).map Parcel.text
  queued : c.queue.frames = (h.fated id .waiting).map Parcel.text
  /-- Together, in this order, they are the frames offered less those evicted. -/
  stream : h.fated id .taken ++ h.fated id .waiting =
    (h.parcels id).filter fun p => p.fate ≠ .evicted
  dropped : ((h.fated id .evicted).filter fun p => p.event?.isSome).length +
    ((h.fated id .evicted).filter fun p => p.source = .reply).length = c.queue.dropped

theorem Carried.accounted {h : History} {c : Connection}
    (hc : Carried c.queue (h.parcels id) (h.handed id)) : Accounted h id c := by
  obtain ⟨past, waiting, hps, hpast, hwaiting, hframes⟩ := hc.settled
  have hwait : h.fated id .waiting = waiting := by
    have hnone : (past.filter fun p => p.fate = .waiting) = [] :=
      List.filter_eq_nil_iff.mpr fun p hp => by simpa using past_not_waiting hpast p hp
    have hall : (waiting.filter fun p => p.fate = .waiting) = waiting :=
      List.filter_eq_self.mpr fun p hp => by simpa using hwaiting p hp
    rw [History.fated, hps, List.filter_append, hnone, hall, List.nil_append]
  have htaken : h.fated id .taken = past.filter fun p => p.fate ≠ .evicted := by
    have hnone : (waiting.filter fun p => p.fate = .taken) = [] :=
      List.filter_eq_nil_iff.mpr fun p hp => by simp [hwaiting p hp]
    rw [History.fated, hps, List.filter_append, hnone, List.append_nil]
    refine List.filter_congr fun p hp => ?_
    rcases hpast p hp with ht | he
    · simp [ht]
    · simp [he]
  refine ⟨hc.handed_eq, ?_, ?_, ?_⟩
  · rw [hwait, hframes]
  · have hall : (waiting.filter fun p => p.fate ≠ .evicted) = waiting :=
      List.filter_eq_self.mpr fun p hp => by simp [hwaiting p hp]
    rw [hwait, htaken, hps, List.filter_append, hall]
  · have hreplies : ((h.fated id .evicted).filter fun p => p.source = .reply) =
        (h.fated id .evicted).filter fun p => !p.event?.isSome := by
      refine List.filter_congr fun p _ => ?_
      cases hs : p.source <;> simp [Parcel.event?, hs]
    rw [hreplies, ← List.length_eq_length_filter_add, hc.dropped, List.countP_eq_length_filter]
    rfl

/-- What connections get to see of the events published. -/
structure Streamed (x : Recorded) : Prop where
  /-- Events are dispatched in the order of publishing. -/
  publish_order : x.history.accepted =
    x.history.turns.map Turn.event ++ x.registry.bus.channel.items
  /-- A dispatch that is over has offered each connection one copy for each filter that it held and
  that accepts the event. -/
  copies : ∀ id n t, x.history.turns[n]? = some t →
    x.registry.bus.current = none ∨ n + 1 < x.history.turns.length →
    (((x.history.parcels id).filterMap Parcel.event?).filter fun p => p.1 = 1 + n) =
      t.copies (1 + n) id
  /-- The copies come in the order of dispatch. -/
  offered : ∀ id, (x.history.parcels id).filterMap Parcel.event? ++
    pendingFor x.registry.bus id = x.history.dueSince id
  accounted : ∀ id c, x.registry.get? id = some c → c.queue.policy = .dropOldest →
    Accounted x.history id c

theorem streamed_of_reachable {config : RegistryConfig} {capacity : Nat} {x : Recorded}
    (hx : x.Reachable config capacity) : Streamed x := by
  have h := Kept.of_reachable hx
  refine ⟨h.queue, fun id n t ht hover => h.copies_eq id ht hover, fun id => ?_,
    fun id c hc hpolicy => (h.carried id c hc hpolicy).accounted⟩
  rw [h.offered, h.due_eq]

/-- Two filters of one connection accept the first event. A reply then evicts one of the copies. -/
theorem streamed_of_reachable_overlap :
    let config : RegistryConfig := { outboundCapacity := 2 }
    let a : ConnectionId := ⟨"a"⟩
    ∃ x, Recorded.Reachable config 4 x ∧ Streamed x ∧
      (x.history.parcels a).map (fun p => (p.source, p.fate)) =
        [(.event 1, .evicted), (.event 1, .taken), (.reply, .waiting), (.event 2, .waiting)] ∧
      ∃ c, x.registry.get? a = some c ∧ c.queue.dropped = 1 ∧ Accounted x.history a c := by
  intro config a
  let t : Time.Timestamp := ⟨⟨2024, 1, 1⟩, 0, 0⟩
  let e : String → Event := fun type => ⟨type, t, [], none, none⟩
  have hx₁ : Recorded.Reachable config 4 _ := (Recorded.Reachable.start.step
    (.operate (.register a none 0)) rfl).step (.operate (.register ⟨"b"⟩ none 0))
      (by rw [Action.Allowed, Operation.Fresh]; decide +kernel)
  have hx₂ := ((hx₁.step (.operate (.subscribe t a ⟨.any, none, none⟩)) trivial).step
    (.operate (.subscribe t a ⟨.exact "x", none, none⟩)) trivial).step
    (.operate (.subscribe t ⟨"b"⟩ ⟨.exact "y", none, none⟩)) trivial
  have hx₃ := (((hx₂.step (.operate (.publish (e "x"))) trivial).step (.operate .deliver)
    trivial).step (.operate (.enqueue a "pong")) trivial).step (.operate (.popFrame a)) trivial
  have hx := (hx₃.step (.operate (.tryPublish (e "y"))) trivial).step (.operate .deliver) trivial
  have hqueue : ∀ {x : Recorded}, x.Reachable config 4 →
      (x.registry.get? a).map (fun c => (c.queue.policy, c.queue.dropped)) = some (.dropOldest, 1) →
      ∃ c, x.registry.get? a = some c ∧ c.queue.dropped = 1 ∧ Accounted x.history a c := by
    intro x hx hq
    obtain ⟨c, hc, hq⟩ := Option.map_eq_some_iff.mp hq
    obtain ⟨hpolicy, hdropped⟩ := Prod.mk.inj hq
    exact ⟨c, hc, hdropped, (streamed_of_reachable hx).accounted a c hc hpolicy⟩
  exact ⟨_, hx, streamed_of_reachable hx, by decide +kernel, hqueue hx (by decide +kernel)⟩

end Fanout.Registry
