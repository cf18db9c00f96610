import Fanout.Proofs.Server.History
import Fanout.Proofs.Server.Queue

/-!
How frames are carried: what a queue that drops the oldest does with those offered, how many copies
of an event are due to a connection, and which operations leave the queues alone.
-/
namespace Fanout

theorem Connection.enqueue_eq (c : Connection) (text : String) :
    (c.enqueue text).1 = (c.queue.push text).1 ∧ (c.enqueue text).2.queue = (c.queue.push text).2 := by
  rcases hp : c.queue.push text with ⟨o, q⟩
  cases o <;> simp [Connection.enqueue, hp]

namespace Registry

variable {r r' : Registry} {id : ConnectionId}

/-- A queue that drops the oldest has the frames that wait, and has counted those evicted. What its
writer got are the frames taken. -/
structure Carried (q : OutboundQueue) (ps : List Parcel) (handed : List String) : Prop where
  not_closed : q.closed = false
  capacity_pos : 0 < q.capacity
  settled : ∃ past waiting, ps = past ++ waiting ∧
    (∀ p ∈ past, p.fate = .taken ∨ p.fate = .evicted) ∧ (∀ p ∈ waiting, p.fate = .waiting) ∧
    q.frames = waiting.map Parcel.text
  handed_eq : handed = (ps.filter fun p => p.fate = .taken).map Parcel.text
  dropped : q.dropped = ps.countP fun p => p.fate = .evicted

namespace Carried

variable {q : OutboundQueue} {ps : List Parcel} {handed : List String}

theorem new (capacity : Nat) (policy : OverflowPolicy) : Carried (.new capacity policy) [] [] where
  not_closed := rfl
  capacity_pos := Nat.lt_of_lt_of_le Nat.zero_lt_one (Nat.le_max_right _ _)
  settled := ⟨[], [], rfl, by simp, by simp, rfl⟩
  handed_eq := rfl
  dropped := rfl

theorem past_not_waiting {past : List Parcel}
    (h : ∀ p ∈ past, p.fate = .taken ∨ p.fate = .evicted) : ∀ p ∈ past, p.fate ≠ .waiting := by
  intro p hp hw
  rcases h p hp with ht | he
  · simp [ht] at hw
  · simp [he] at hw

/-- Room is made by the frame that has waited longest. -/
theorem push (h : Carried q ps handed) (hpolicy : q.policy = .dropOldest) (source : Source)
    (text : String) :
    Carried (q.push text).2 (Parcel.offer ps source text (q.push text).1) handed := by
  obtain ⟨past, waiting, hps, hpast, hwaiting, hframes⟩ := h.settled
  have hnew : ∀ p ∈ waiting ++ [⟨source, text, .waiting⟩], p.fate = .waiting := by
    intro p hp
    rcases List.mem_append.mp hp with hold | hlast
    · exact hwaiting p hold
    · rw [List.mem_singleton.mp hlast]
  by_cases hroom : q.frames.length < q.capacity
  · have hpush : q.push text = (.queued, { q with frames := q.frames ++ [text] }) := by
      simp [OutboundQueue.push, h.not_closed, hroom]
    rw [hpush]
    refine ⟨h.not_closed, h.capacity_pos, ⟨past, waiting ++ [⟨source, text, .waiting⟩], ?_, hpast,
      hnew, ?_⟩, ?_, ?_⟩
    · simp [Parcel.offer, hps]
    · simp [hframes]
    · simpa [Parcel.offer] using h.handed_eq
    · simpa [Parcel.offer] using h.dropped
  · have hpush : q.push text = (.droppedOldest,
        { q with frames := q.frames.tail ++ [text], dropped := q.dropped + 1 }) := by
      simp [OutboundQueue.push, h.not_closed, hroom, hpolicy]
    rw [hpush]
    cases waiting with
    | nil =>
      have := h.capacity_pos
      simp [hframes] at hroom
      omega
    | cons first rest =>
      have hfirst : first.fate = .waiting := hwaiting first List.mem_cons_self
      have hresolve := Parcel.resolve_append .evicted rest (past_not_waiting hpast) hfirst
      refine ⟨h.not_closed, h.capacity_pos, ⟨past ++ [{ first with fate := .evicted }],
        rest ++ [⟨source, text, .waiting⟩], ?_, ?_, ?_, ?_⟩, ?_, ?_⟩
      · simp [Parcel.offer, hps, hresolve]
      · intro p hp
        rcases List.mem_append.mp hp with hold | hlast
        · exact hpast p hold
        · rw [List.mem_singleton.mp hlast]
          exact .inr rfl
      · exact fun p hp => hnew p (List.mem_cons_of_mem _ hp)
      · simp [hframes]
      · simpa [Parcel.offer, hps, hresolve, hfirst] using h.handed_eq
      · have hdropped := h.dropped
        simp only [hps, List.countP_append, List.countP_cons, hfirst] at hdropped
        simp only [Parcel.offer, hps, hresolve, List.countP_append, List.countP_cons]
        simp at hdropped ⊢
        omega

/-- The writer gets the frame that has waited longest. -/
theorem pop (h : Carried q ps handed) :
    Carried q.pop.2 (if q.pop.1.isSome then Parcel.resolve .taken ps else ps)
      (handed ++ q.pop.1.toList) := by
  obtain ⟨past, waiting, hps, hpast, hwaiting, hframes⟩ := h.settled
  have hpop : q.pop = (q.frames.head?, { q with frames := q.frames.tail }) := by
    simp [OutboundQueue.pop, h.not_closed]
  rw [hpop]
  cases waiting with
  | nil =>
    have hempty : q.frames = [] := by simpa using hframes
    simp only [hempty, List.head?_nil, List.tail_nil, Option.isSome_none, Option.toList_none,
      List.append_nil, Bool.false_eq_true, if_false]
    exact ⟨h.not_closed, h.capacity_pos, ⟨past, [], hps, hpast, hwaiting, rfl⟩, h.handed_eq,
      h.dropped⟩
  | cons first rest =>
    have hfirst : first.fate = .waiting := hwaiting first List.mem_cons_self
    have hresolve := Parcel.resolve_append .taken rest (past_not_waiting hpast) hfirst
    have hrest : ∀ p ∈ rest, p.fate = .waiting := fun p hp =>
      hwaiting p (List.mem_cons_of_mem _ hp)
    have hnone : (rest.filter fun p => p.fate = .taken) = [] :=
      List.filter_eq_nil_iff.mpr fun p hp => by simp [hrest p hp]
    simp only [hframes, List.map_cons, List.head?_cons, Option.isSome_some, if_true, List.tail_cons]
    refine ⟨h.not_closed, h.capacity_pos, ⟨past ++ [{ first with fate := .taken }], rest, ?_, ?_,
      hrest, rfl⟩, ?_, ?_⟩
    · simp [hps, hresolve]
    · intro p hp
      rcases List.mem_append.mp hp with hold | hlast
      · exact hpast p hold
      · rw [List.mem_singleton.mp hlast]
        exact .inl rfl
    · have hhanded := h.handed_eq
      simp only [hps, List.filter_append, List.filter_cons, hfirst, hnone] at hhanded
      simp only [hps, hresolve, List.filter_append, List.filter_cons, hnone]
      simpa using hhanded
    · have hdropped := h.dropped
      simp only [hps, List.countP_append, List.countP_cons, hfirst] at hdropped
      simp only [hps, hresolve, List.countP_append, List.countP_cons]
      simpa using hdropped

end Carried

/-- The copies of an event's frame that a connection is to be offered: one for each filter that it
held and that accepts the event. -/
def Turn.copies (t : Turn) (n : Nat) (id : ConnectionId) : List (Nat × String) :=
  List.replicate ((t.held id).countP fun f => f.accepts t.event) (n, t.event.frame)

def copiesDue (turns : List (Turn × Nat)) (id : ConnectionId) : List (Nat × String) :=
  turns.flatMap fun p => p.1.copies p.2 id

namespace History

def due (h : History) (id : ConnectionId) : List (Nat × String) :=
  copiesDue (h.turns.zipIdx 1) id

/-- What is due for the events dispatched since the connection was admitted. -/
def dueSince (h : History) (id : ConnectionId) : List (Nat × String) :=
  copiesDue ((h.turns.zipIdx 1).drop (h.since id)) id

end History

/-- Which copies belong to which turn can be told by its number. -/
theorem filter_copiesDue (turns : List Turn) (k n : Nat) (id : ConnectionId) :
    ((copiesDue (turns.zipIdx k) id).filter fun p => p.1 = k + n) =
      (turns[n]?).elim [] fun t => t.copies (k + n) id := by
  induction turns generalizing k n with
  | nil => rfl
  | cons t rest ih =>
    have hsplit : copiesDue ((t :: rest).zipIdx k) id =
        t.copies k id ++ copiesDue (rest.zipIdx (k + 1)) id := rfl
    rw [hsplit, List.filter_append]
    cases n with
    | zero =>
      have hlater : ((copiesDue (rest.zipIdx (k + 1)) id).filter fun p => p.1 = k + 0) = [] := by
        refine List.filter_eq_nil_iff.mpr fun p hp he => ?_
        obtain ⟨q, hq, hp⟩ := List.mem_flatMap.mp hp
        have hle : k + 1 ≤ q.2 := List.le_snd_of_mem_zipIdx hq
        have hnumber : p.1 = q.2 := by rw [List.eq_of_mem_replicate hp]
        simp only [decide_eq_true_eq] at he
        omega
      rw [hlater]
      simp [Turn.copies]
    | succ n =>
      have hnone : ((t.copies k id).filter fun p => p.1 = k + (n + 1)) = [] := by
        simp [Turn.copies]
      have hrest := ih (k + 1) n
      rw [hnone, List.nil_append, List.getElem?_cons_succ]
      rwa [show k + 1 + n = k + (n + 1) by omega] at hrest

/-- The copies that the dispatch under way has still to offer. -/
def pendingFor (b : Bus ConnectionId) (id : ConnectionId) : List (Nat × String) :=
  match b.current with
  | some d =>
    (d.targets.filter fun p => p.2 = id).map fun _ => (b.counters.dispatched, d.event.frame)
  | none => []

theorem pendingFor_congr {b b' : Bus ConnectionId} (hc : b'.current = b.current)
    (hd : b'.counters.dispatched = b.counters.dispatched) (id : ConnectionId) :
    pendingFor b' id = pendingFor b id := by
  simp only [pendingFor, hc, hd]

/-- What has a connection for its handler is what it holds. -/
theorem filter_held_perm (hn : (Keyed.keys r.connections).Nodup) (id : ConnectionId) :
    (r.held.filter fun g => g.handler = id).Perm (r.heldBy id) := by
  have hhandler : ∀ j, ∀ g ∈ r.heldBy j, g.handler = j := by
    intro j g hg
    obtain ⟨p, -, rfl⟩ := List.mem_map.mp hg
    rfl
  cases hc : r.connection? id with
  | none =>
    have hnothing : r.heldBy id = [] := by simp [heldBy, ownedBy, hc]
    have hnobody : (r.held.filter fun g => g.handler = id) = [] := by
      refine List.filter_eq_nil_iff.mpr fun g hg hid => ?_
      obtain ⟨j, hj, hg⟩ := List.mem_flatMap.mp hg
      have he : j = id := (hhandler j g hg).symm.trans (by simpa using hid)
      exact Keyed.get?_eq_none_iff.mp hc (he ▸ hj)
    rw [hnothing, hnobody]
  | some c =>
    have hself : ((r.heldBy id).filter fun g => g.handler = id) = r.heldBy id :=
      List.filter_eq_self.mpr fun g hg => by simpa using hhandler id g hg
    have hothers : ((r.heldByOthers id).filter fun g => g.handler = id) = [] := by
      refine List.filter_eq_nil_iff.mpr fun g hg hid => ?_
      obtain ⟨j, hj, hg⟩ := List.mem_flatMap.mp hg
      have he : j = id := (hhandler j g hg).symm.trans (by simpa using hid)
      exact (hn.mem_erase_iff.mp hj).1 he
    have hsplit := (held_perm hc).filter fun g => decide (g.handler = id)
    rwa [List.filter_append, hself, hothers, List.append_nil] at hsplit

/-- A connection is a target of an event as often as its filters accept it. -/
theorem length_targets_filter (h : Consistent r []) (e : Event) (id : ConnectionId) :
    ((r.bus.table.targets e).filter fun p => p.2 = id).length =
      (Keyed.keys (r.ownedBy id)).countP fun f => f.accepts e := by
  have hgrants : (Bus.grantsIn r.bus.table).Perm r.held :=
    List.append_nil r.held ▸ h.backs.grants_perm
  have hmine := ((hgrants.filter fun g => decide (g.handler = id)).trans
    (filter_held_perm h.keys_nodup id)).countP_eq fun g => g.filter.accepts e
  calc ((r.bus.table.targets e).filter fun p => p.2 = id).length
      = ((Bus.grantsIn r.bus.table).filter fun g => g.handler = id).countP
          fun g => g.filter.accepts e := by
        rw [Bus.targets_eq_grants, List.filter_map, List.length_map, List.countP_eq_length_filter,
          List.filter_comm]
        rfl
    _ = (r.heldBy id).countP fun g => g.filter.accepts e := hmine
    _ = (Keyed.keys (r.ownedBy id)).countP fun f => f.accepts e := by
        rw [heldBy, Keyed.keys, List.countP_map, List.countP_map]
        rfl

/-- The dispatch under way and the queues of those who are there are the same. -/
structure Still (r r' : Registry) : Prop where
  items : r'.bus.channel.items = r.bus.channel.items
  current : r'.bus.current = r.bus.current
  dispatched : r'.bus.counters.dispatched = r.bus.counters.dispatched
  keys : Keyed.keys r'.connections = Keyed.keys r.connections
  queues : ∀ id c', r'.get? id = some c' → ∃ c, r.get? id = some c ∧ c'.queue = c.queue

namespace Still

theorem refl (r : Registry) : Still r r := ⟨rfl, rfl, rfl, rfl, fun _ c hc => ⟨c, hc, rfl⟩⟩

theorem trans {r'' : Registry} (h : Still r r') (h' : Still r' r'') : Still r r'' where
  items := h'.items.trans h.items
  current := h'.current.trans h.current
  dispatched := h'.dispatched.trans h.dispatched
  keys := h'.keys.trans h.keys
  queues := fun id c'' hc'' => by
    obtain ⟨c', hc', hq'⟩ := h'.queues id c'' hc''
    obtain ⟨c, hc, hq⟩ := h.queues id c' hc'
    exact ⟨c, hc, hq'.trans hq⟩

theorem of_bus {b : Bus ConnectionId} (hi : b.channel.items = r.bus.channel.items)
    (hc : b.current = r.bus.current) (hd : b.counters.dispatched = r.bus.counters.dispatched) :
    Still r { r with bus := b } :=
  ⟨hi, hc, hd, rfl, fun _ c hc => ⟨c, hc, rfl⟩⟩

/-- A connection that is there may change, but for its queue, and one that is gone as it likes. -/
theorem update {f : Connection → Connection}
    (hf : id ∈ r.live → ∀ c, r.connection? id = some c → (f c).queue = c.queue) :
    Still r (r.update id f) where
  items := rfl
  current := rfl
  dispatched := rfl
  keys := Keyed.keys_modify f
  queues := fun j c' hc' => by
    obtain ⟨hl, hc'⟩ := get?_eq_some_iff.mp hc'
    rw [connection?_update] at hc'
    split_ifs at hc' with hj
    · obtain ⟨c, hc, rfl⟩ := Option.map_eq_some_iff.mp hc'
      exact ⟨c, get?_eq_some_iff.mpr ⟨hl, hc⟩, hf (hj ▸ hl) c (hj ▸ hc)⟩
    · exact ⟨c', get?_eq_some_iff.mpr ⟨hl, hc'⟩, rfl⟩

theorem unsubscribeBus (sub : SubscriptionId) : Still r (r.unsubscribeBus sub) := by
  unfold Registry.unsubscribeBus
  rw [Bus.unsubscribe_eq]
  dsimp only
  split_ifs
  · exact of_bus rfl rfl rfl
  · exact refl r

theorem unsubscribeAll (subs : List SubscriptionId) :
    Still r (subs.foldl Registry.unsubscribeBus r) := by
  induction subs generalizing r with
  | nil => exact refl r
  | cons sub rest ih => exact (unsubscribeBus sub).trans ih

theorem subscribe {now : Time.Timestamp} {f : Filter} {o : SubscribeOutcome}
    (hs : r.subscribe now id f = .ok (o, r')) : Still r r' := by
  unfold Registry.subscribe at hs
  split_ifs at hs
  obtain ⟨-, -, -, -, -, -, rfl⟩ | ⟨c, sub, bus, -, -, -, -, -, -, hb, rfl⟩ := subscribeOn_cases hs
  · exact refl r'
  · have hbus : Still r { r with bus } := by
      obtain ⟨-, -, rfl⟩ := Bus.subscribe_eq hb
      exact of_bus rfl rfl rfl
    exact hbus.trans (update fun _ _ _ => rfl)

theorem unsubscribe {f : Filter} {b : Bool} (hu : r.unsubscribe id f = .ok (b, r')) :
    Still r r' := by
  unfold Registry.unsubscribe at hu
  split_ifs at hu
  obtain hn | ⟨c, sub, hc, hf, hd⟩ := disown_cases r id f
  · rw [hn] at hu
    obtain ⟨-, rfl⟩ := Prod.mk.inj (Except.ok.inj hu)
    exact refl r
  · rw [hd] at hu
    obtain ⟨-, rfl⟩ := Prod.mk.inj (Except.ok.inj hu)
    refine .trans (update ?_) (unsubscribeBus sub)
    exact fun _ _ _ => rfl

theorem unregister : Still r (r.unregister id).2 := by
  unfold Registry.unregister
  split_ifs
  · refine ⟨rfl, rfl, rfl, rfl, fun j c hc => ?_⟩
    obtain ⟨hl, hc⟩ := get?_eq_some_iff.mp hc
    exact ⟨c, get?_eq_some_iff.mpr ⟨List.mem_of_mem_filter hl, hc⟩, rfl⟩
  · exact refl r

theorem not_mem_unregister : id ∉ (r.unregister id).2.live := by
  unfold Registry.unregister
  split_ifs with hl
  · intro hm
    simpa using (List.mem_filter.mp hm).2
  · exact fun hm => hl (isLive_iff.mpr hm)

/-- A connection that is stopped loses its queue, but it is not there any more. -/
theorem beginClose : Still r ((r.unregister id).2.beginClose id) :=
  unregister.trans (update fun hl => absurd hl not_mem_unregister)

theorem endClose : Still r (((r.endClose id).getD r).dropSubscriptions id) := by
  have hend : Still r ((r.endClose id).getD r) := by
    cases h : r.endClose id with
    | none => exact refl r
    | some r' =>
      unfold Registry.endClose at h
      obtain ⟨c, hc, h⟩ := Option.bind_eq_some_iff.mp h
      obtain ⟨c', hc', h⟩ := Option.bind_eq_some_iff.mp h
      rw [Option.getD_some, ← Option.some.inj h]
      refine update fun _ d hd => ?_
      obtain rfl : c = d := Option.some.inj (hc.symm.trans hd)
      unfold Connection.endClose at hc'
      split_ifs at hc'
      rw [← Option.some.inj hc']
  refine hend.trans ?_
  generalize (r.endClose id).getD r = r₁
  unfold dropSubscriptions disownAll
  cases r₁.connection? id with
  | none => exact refl r₁
  | some c =>
    have hdisown : Still r₁ (r₁.update id fun c => { c with owned := [] }) :=
      update fun _ _ _ => rfl
    exact hdisown.trans (unsubscribeAll _)

end Still

namespace Consistent

theorem subscribe (h : Consistent r []) {now : Time.Timestamp} {f : Filter} {o : SubscribeOutcome}
    (hs : r.subscribe now id f = .ok (o, r')) : Consistent r' [] := by
  unfold Registry.subscribe at hs
  split_ifs at hs
  exact h.subscribeOn hs

theorem unsubscribe (h : Consistent r []) {f : Filter} {b : Bool}
    (hu : r.unsubscribe id f = .ok (b, r')) : Consistent r' [] := by
  unfold Registry.unsubscribe at hu
  split_ifs at hu
  obtain hn | ⟨c, sub, hc, hf, hd⟩ := disown_cases r id f
  · rw [hn] at hu
    obtain ⟨-, rfl⟩ := Prod.mk.inj (Except.ok.inj hu)
    exact h
  · have hdisowned := (h.disown hd).unsubscribeBus
    rw [hd] at hu
    obtain ⟨-, rfl⟩ := Prod.mk.inj (Except.ok.inj hu)
    exact hdisowned

theorem beginClose (h : Consistent r []) (id : ConnectionId) :
    Consistent ((r.unregister id).2.beginClose id) [] :=
  (h.unregister id).quiet .beginClose

theorem endClose (h : Consistent r []) (id : ConnectionId) :
    Consistent (((r.endClose id).getD r).dropSubscriptions id) [] :=
  (h.quiet .endClose).dropSubscriptions id

theorem reorder (h : Consistent r []) {entries : List (Filter × List (Subscriber ConnectionId))}
    (hp : entries.Perm r.bus.table.entries) :
    Consistent { r with bus := { r.bus with table := { r.bus.table with entries } } } [] :=
  { h with
    backs := ⟨h.backs.table.reorder hp, h.backs.not_closed, h.backs.ids_below,
      ((hp.flatMap_right _).map _).trans h.backs.grants_perm⟩ }

end Consistent

/-- To close a connection at once is to stop it and then to drop what it owns. -/
theorem close_eq (r : Registry) (id : ConnectionId) :
    (r.close id).2 = if r.isLive id then
      let r₁ := (r.unregister id).2.beginClose id
      ((r₁.endClose id).getD r₁).dropSubscriptions id
    else r := by
  unfold close unregister
  split_ifs <;> rfl

/-- A frame is queued for a connection that is there. -/
theorem enqueue_eq {frame : String} {o : PushOutcome} (h : r.enqueue id frame = .ok (o, r')) :
    ∃ c, r.get? id = some c ∧ o = (c.enqueue frame).1 ∧
      r' = r.update id fun _ => (c.enqueue frame).2 := by
  unfold enqueue at h
  split at h
  · cases h
  · rename_i c hc
    have hpair := (Except.ok.inj h).symm
    exact ⟨c, hc, congrArg Prod.fst hpair, congrArg Prod.snd hpair⟩

end Registry

end Fanout
