import Fanout.Proofs.Server.Evolution

/-!
Connections and the bus agree on who has subscribed to what. Main statement: after any operations
the bus has exactly the subscriptions that the connections own, each owned once.
-/
namespace Fanout

theorem Filter.isFirehose_iff {f : Filter} : f.isFirehose = true ↔ f = ⟨.any, none, none⟩ := by
  obtain ⟨p, o, d⟩ := f
  simp [Filter.isFirehose, and_assoc]

/-- All firehoses are the same filter, so distinct filters have one firehose at most. -/
theorem Filter.firehoses_le_one {l : List Filter} (h : l.Nodup) :
    (l.filter isFirehose).length ≤ 1 := by
  have heq : l.filter isFirehose = l.filter (· == ⟨.any, none, none⟩) := by
    refine List.filter_congr fun f _ => ?_
    rw [Bool.eq_iff_iff, isFirehose_iff, beq_iff_eq]
  rw [heq, ← List.count_eq_length_filter]
  exact List.nodup_iff_count_le_one.mp h _

namespace Registry

variable {r r' : Registry} {id : ConnectionId} {f : Filter} {c : Connection}

def heldByOthers (r : Registry) (id : ConnectionId) : List (Bus.Grant ConnectionId) :=
  ((Keyed.keys r.connections).erase id).flatMap r.heldBy

theorem held_perm (hc : r.connection? id = some c) :
    r.held.Perm (r.heldBy id ++ r.heldByOthers id) :=
  (List.perm_cons_erase (Keyed.mem_keys_iff.mpr ⟨c, hc⟩)).flatMap_right _

theorem heldByOthers_update (hn : (Keyed.keys r.connections).Nodup) (g : Connection → Connection) :
    (r.update id g).heldByOthers id = r.heldByOthers id := by
  have hk : Keyed.keys (r.update id g).connections = Keyed.keys r.connections := Keyed.keys_modify g
  unfold heldByOthers
  rw [hk]
  refine List.flatMap_congr fun j hj => ?_
  rw [heldBy, heldBy, ownedBy_update_of_ne g (hn.mem_erase_iff.mp hj).1]

/-- The bus has what connections own and what is still to be unsubscribed. -/
structure Consistent (r : Registry) (pending : List (Bus.Grant ConnectionId)) : Prop where
  backs : r.bus.Backs (r.held ++ pending)
  keys_nodup : (Keyed.keys r.connections).Nodup
  live_nodup : r.live.Nodup
  live_known : r.live ⊆ Keyed.keys r.connections
  filters_nodup : ∀ id, (Keyed.keys (r.ownedBy id)).Nodup
  live_bound : r.live.length ≤ r.config.maxConnections
  owned_bound : ∀ id, (r.ownedBy id).length ≤ r.config.maxSubscriptions
  firehose_allowed : ∀ id, ∀ f ∈ Keyed.keys (r.ownedBy id), f.isFirehose → 0 < r.config.maxFirehose

namespace Consistent

variable {pending pending' : List (Bus.Grant ConnectionId)}

theorem new (config : RegistryConfig) (capacity : Nat) : Consistent (.new config capacity) [] where
  backs := .new capacity
  keys_nodup := List.nodup_nil
  live_nodup := List.nodup_nil
  live_known := List.nil_subset _
  filters_nodup := fun _ => List.nodup_nil
  live_bound := Nat.zero_le _
  owned_bound := fun _ => Nat.zero_le _
  firehose_allowed := fun _ _ hf => absurd hf List.not_mem_nil

theorem quiet (h : Consistent r pending) (q : Quiet r r') : Consistent r' pending where
  backs := by
    rw [q.held]
    exact h.backs.congr q.table q.nextId
  keys_nodup := q.keys ▸ h.keys_nodup
  live_nodup := q.live ▸ h.live_nodup
  live_known := by simpa only [q.live, q.keys] using h.live_known
  filters_nodup := by simpa only [q.owned] using h.filters_nodup
  live_bound := by simpa only [q.live, q.config] using h.live_bound
  owned_bound := by simpa only [q.owned, q.config] using h.owned_bound
  firehose_allowed := by simpa only [q.owned, q.config] using h.firehose_allowed

theorem gaugeConnections (h : Consistent r pending) : Consistent r.gaugeConnections pending :=
  h.quiet ⟨rfl, rfl, rfl, rfl, rfl, fun _ => rfl⟩

/-- The filters of one connection change, and the bus with them. -/
theorem update (h : Consistent r pending) {b : Bus ConnectionId} {g : Connection → Connection}
    (hr : r' = ({ r with bus := b } : Registry).update id g) (hc : r.connection? id = some c)
    (hb : b.Backs ((g c).owned.map (fun p => ⟨p.2, p.1, id⟩) ++ r.heldByOthers id ++ pending'))
    (hn : (Keyed.keys (g c).owned).Nodup) (hlen : (g c).owned.length ≤ r.config.maxSubscriptions)
    (hfire : ∀ f ∈ Keyed.keys (g c).owned, f.isFirehose → 0 < r.config.maxFirehose) :
    Consistent r' pending' := by
  have hc' : ({ r with bus := b } : Registry).connection? id = some c := hc
  have hconn : r'.connection? id = some (g c) := by
    rw [hr, connection?_update, if_pos rfl, hc']
    rfl
  have hself : r'.ownedBy id = (g c).owned := ownedBy_of_connection? hconn
  have hother : ∀ j, j ≠ id → r'.ownedBy j = r.ownedBy j := fun j hj =>
    hr ▸ ownedBy_update_of_ne g hj
  have hothers : r'.heldByOthers id = r.heldByOthers id := hr ▸ heldByOthers_update h.keys_nodup g
  have hk : Keyed.keys r'.connections = Keyed.keys r.connections := hr ▸ Keyed.keys_modify g
  have hl : r'.live = r.live := hr ▸ rfl
  have hconfig : r'.config = r.config := hr ▸ rfl
  have hheld : r'.held.Perm ((g c).owned.map (fun p => ⟨p.2, p.1, id⟩) ++ r.heldByOthers id) := by
    rw [← hself, ← hothers]
    exact held_perm hconn
  refine ⟨?_, hk ▸ h.keys_nodup, hl ▸ h.live_nodup, hk ▸ hl ▸ h.live_known, fun j => ?_, ?_,
    fun j => ?_, fun j => ?_⟩
  · have hbus : r'.bus = b := hr ▸ rfl
    rw [hbus]
    exact hb.perm (hheld.symm.append_right _)
  · by_cases hj : j = id
    · rwa [hj, hself]
    · rw [hother j hj]
      exact h.filters_nodup j
  · rw [hl, hconfig]
    exact h.live_bound
  · rw [hconfig]
    by_cases hj : j = id
    · rwa [hj, hself]
    · rw [hother j hj]
      exact h.owned_bound j
  · rw [hconfig]
    by_cases hj : j = id
    · rwa [hj, hself]
    · rw [hother j hj]
      exact h.firehose_allowed j

theorem register (h : Consistent r pending) {session : Option String} {clock : Nat}
    (hid : r.connection? id = none) (hr : r.register id session clock = .ok r') :
    Consistent r' pending := by
  obtain ⟨hroom, hconfig, hbus, hk, hl, howned⟩ := register_eq hid hr
  have hnew : id ∉ Keyed.keys r.connections := Keyed.get?_eq_none_iff.mp hid
  have hheldBy : r'.heldBy = r.heldBy := funext fun j => by rw [heldBy, heldBy, howned]
  have hnothing : r.heldBy id = [] := by simp [heldBy, ownedBy, hid]
  refine ⟨?_, ?_, ?_, ?_, ?_, ?_, ?_, ?_⟩
  · have hheld : r'.held = r.held := by
      rw [held, held, hk, hheldBy, List.flatMap_append]
      simp [hnothing]
    rw [hbus, hheld]
    exact h.backs
  · rw [hk]
    simpa using List.Nodup.concat hnew h.keys_nodup
  · rw [hl]
    simpa using List.Nodup.concat (fun hm => hnew (h.live_known hm)) h.live_nodup
  · rw [hl, hk]
    exact List.append_subset.mpr ⟨List.subset_append_of_subset_left _ h.live_known,
      List.subset_append_right _ _⟩
  · simpa only [howned] using h.filters_nodup
  · rw [hl, hconfig, List.length_append]
    exact hroom
  · simpa only [howned, hconfig] using h.owned_bound
  · simpa only [howned, hconfig] using h.firehose_allowed

theorem subscribeOn (h : Consistent r pending) {now : Time.Timestamp} {o : SubscribeOutcome}
    (hs : r.subscribeOn now id f = .ok (o, r')) : Consistent r' pending := by
  obtain ⟨-, -, -, -, -, -, rfl⟩ | ⟨c, sub, bus, -, hc, -, hf, hlen, hfire, hb, hr⟩ := subscribeOn_cases hs
  · exact h
  · have howned := ownedBy_of_connection? hc
    have hput : Keyed.put f sub c.owned = c.owned ++ [(f, sub)] :=
      Keyed.put_of_not_mem (Keyed.get?_eq_none_iff.mp hf)
    refine h.update hr hc ?_ (Keyed.nodup_keys_put (howned ▸ h.filters_nodup id)) ?_ ?_
    · have hmid : (⟨sub, f, id⟩ :: (r.heldBy id ++ r.heldByOthers id ++ pending)).Perm
          (r.heldBy id ++ ⟨sub, f, id⟩ :: (r.heldByOthers id ++ pending)) := by
        rw [List.append_assoc]
        exact List.perm_middle.symm
      refine (h.backs.subscribe hb).perm ((((held_perm hc).append_right _).cons _).trans ?_)
      simpa [hput, heldBy, howned] using hmid
    · simp only [hput, List.length_append]
      exact hlen
    · intro f' hf' hfh
      simp only [hput, Keyed.keys_append] at hf'
      rcases List.mem_append.mp hf' with ho | hn
      · exact h.firehose_allowed id f' (howned ▸ ho) hfh
      · rw [List.mem_singleton.mp hn] at hfh
        exact Nat.zero_lt_of_lt (hfire hfh)

theorem disown (h : Consistent r pending) {sub : SubscriptionId}
    (hd : r.disown id f = (some sub, r')) : Consistent r' (⟨sub, f, id⟩ :: pending) := by
  obtain hn | ⟨c, sub', hc, hf, he⟩ := disown_cases r id f
  · rw [hn] at hd
    cases hd
  · rw [he] at hd
    obtain ⟨hsub, hr⟩ := Prod.mk.inj hd
    obtain rfl := Option.some.inj hsub
    have howned := ownedBy_of_connection? hc
    have herase : c.owned.Perm ((f, sub') :: Keyed.erase f c.owned) := Keyed.perm_cons_erase hf
    refine h.update hr.symm hc ?_ (Keyed.nodup_keys_erase (howned ▸ h.filters_nodup id)) ?_ ?_
    · refine h.backs.perm (((held_perm hc).append_right _).trans ?_)
      rw [heldBy, howned]
      refine (((herase.map _).append_right _).append_right _).trans ?_
      exact List.perm_middle.symm
    · have := herase.length_eq
      have := howned ▸ h.owned_bound id
      simp only [List.length_cons] at *
      omega
    · intro f' hf' hfh
      obtain ⟨p, hp, rfl⟩ := List.mem_map.mp hf'
      have hm : p.1 ∈ Keyed.keys c.owned := Keyed.mem_keys_of_mem (Keyed.mem_of_mem_erase hp)
      exact h.firehose_allowed id p.1 (howned ▸ hm) hfh

theorem disownAll (h : Consistent r pending) (id : ConnectionId) :
    Consistent (r.disownAll id).2 (r.heldBy id ++ pending) := by
  unfold Registry.disownAll
  cases hc : r.connection? id with
  | none => simpa [heldBy, ownedBy, hc] using h
  | some c =>
    refine h.update rfl hc ?_ List.nodup_nil (Nat.zero_le _) fun _ hf => absurd hf List.not_mem_nil
    refine h.backs.perm (((held_perm hc).append_right _).trans ?_)
    simpa using (List.perm_append_comm_assoc _ _ _)

theorem unsubscribeBus {g : Bus.Grant ConnectionId} (h : Consistent r (g :: pending)) :
    Consistent (r.unsubscribeBus g.id) pending :=
  { h with backs := (h.backs.perm List.perm_middle).unsubscribe }

theorem unsubscribeAll {gone : List (Bus.Grant ConnectionId)} (h : Consistent r (gone ++ pending)) :
    Consistent ((gone.map Bus.Grant.id).foldl Registry.unsubscribeBus r) pending := by
  induction gone generalizing r with
  | nil => exact h
  | cons g rest ih => exact ih h.unsubscribeBus

theorem unregister (h : Consistent r pending) (id : ConnectionId) :
    Consistent (r.unregister id).2 pending := by
  unfold Registry.unregister
  split_ifs
  · refine gaugeConnections { h with live_nodup := ?_, live_known := ?_, live_bound := ?_ }
    · exact h.live_nodup.filter _
    · exact List.Subset.trans (List.filter_subset_self _) h.live_known
    · exact Nat.le_trans (List.length_filter_le _ _) h.live_bound
  · exact h

theorem dropSubscriptions (h : Consistent r pending) (id : ConnectionId) :
    Consistent (r.dropSubscriptions id) pending := by
  have hsubs : (r.disownAll id).1 = (r.heldBy id).map Bus.Grant.id := by
    rw [disownAll_subs, heldBy, List.map_map]
    rfl
  rw [dropSubscriptions_eq, hsubs]
  exact (h.disownAll id).unsubscribeAll

theorem close (h : Consistent r pending) (id : ConnectionId) :
    Consistent (r.close id).2 pending := by
  have hu := h.unregister id
  unfold Registry.close
  split
  · rename_i r₁ hr₁
    rwa [hr₁] at hu
  · rename_i r₁ hr₁
    rw [hr₁] at hu
    exact (hu.quiet (Quiet.beginClose.trans Quiet.endClose)).dropSubscriptions id

end Consistent

/-- Between operations nothing is pending, and who is gone owns nothing. -/
structure Settled (config : RegistryConfig) (r : Registry) : Prop extends Consistent r [] where
  config_eq : r.config = config
  gone : ∀ id, id ∉ r.live → r.ownedBy id = []

namespace Settled

variable {config : RegistryConfig}

theorem new (config : RegistryConfig) (capacity : Nat) : Settled config (.new config capacity) :=
  ⟨.new config capacity, rfl, fun _ _ => rfl⟩

theorem quiet (h : Settled config r) (q : Quiet r r') : Settled config r' where
  toConsistent := h.toConsistent.quiet q
  config_eq := q.config.trans h.config_eq
  gone := by simpa only [q.live, q.owned] using h.gone

theorem register (h : Settled config r) {session : Option String} {clock : Nat}
    (hid : r.connection? id = none) (hr : r.register id session clock = .ok r') :
    Settled config r' := by
  obtain ⟨-, hconfig, -, -, hl, howned⟩ := register_eq hid hr
  refine ⟨h.toConsistent.register hid hr, hconfig.trans h.config_eq, fun j hj => ?_⟩
  rw [hl] at hj
  rw [howned]
  exact h.gone j fun hm => hj (List.mem_append_left _ hm)

theorem subscribe (h : Settled config r) {now : Time.Timestamp} {o : SubscribeOutcome}
    (hs : r.subscribe now id f = .ok (o, r')) : Settled config r' := by
  unfold Registry.subscribe at hs
  split_ifs at hs with hid
  have hc := h.toConsistent.subscribeOn hs
  obtain ⟨-, -, -, -, -, -, rfl⟩ | ⟨c, sub, bus, -, -, -, -, -, -, -, rfl⟩ := subscribeOn_cases hs
  · exact h
  · refine ⟨hc, h.config_eq, fun j hj => ?_⟩
    have hne : j ≠ id := by
      rintro rfl
      exact hj (isLive_iff.mp hid)
    rw [ownedBy_update_of_ne _ hne]
    exact h.gone j hj

theorem unsubscribe (h : Settled config r) {b : Bool}
    (hu : r.unsubscribe id f = .ok (b, r')) : Settled config r' := by
  unfold Registry.unsubscribe at hu
  split_ifs at hu with hid
  obtain hn | ⟨c, sub, hc, hf, hd⟩ := disown_cases r id f
  · rw [hn] at hu
    obtain ⟨-, rfl⟩ := Prod.mk.inj (Except.ok.inj hu)
    exact h
  · have hcons := (h.toConsistent.disown hd).unsubscribeBus
    rw [hd] at hu
    obtain ⟨-, rfl⟩ := Prod.mk.inj (Except.ok.inj hu)
    refine ⟨hcons, h.config_eq, fun j hj => ?_⟩
    have hne : j ≠ id := by
      rintro rfl
      exact hj (isLive_iff.mp hid)
    exact (ownedBy_update_of_ne _ hne).trans (h.gone j hj)

theorem close (h : Settled config r) (id : ConnectionId) : Settled config (r.close id).2 := by
  obtain ⟨-, hconfig, hlive, hself, hother⟩ := r.close_frame id
  refine ⟨h.toConsistent.close id, hconfig.trans h.config_eq, fun j hj => ?_⟩
  rw [hlive, List.mem_filter, not_and] at hj
  by_cases he : j = id
  · subst he
    rw [hself]
    split_ifs with hid
    · rfl
    · exact h.gone j (mt isLive_iff.mpr hid)
  · rw [hother j he]
    exact h.gone j fun hm => hj hm (by simpa using he)

theorem closeAll (h : Settled config r) : Settled config r.closeAll := by
  unfold Registry.closeAll
  generalize r.live = ids
  induction ids generalizing r with
  | nil => exact h
  | cons id rest ih => exact ih (h.close id)

theorem perform (h : Settled config r) (op : Operation) (hf : op.Fresh r) :
    Settled config (op.perform r) := by
  cases op with
  | register id session clock =>
    simp only [Operation.perform]
    cases hr : r.register id session clock with
    | error e => exact h
    | ok r' => exact h.register hf hr
  | subscribe now id f =>
    simp only [Operation.perform]
    cases hs : r.subscribe now id f with
    | error e => exact h
    | ok x => exact h.subscribe hs
  | unsubscribe id f =>
    simp only [Operation.perform]
    cases hu : r.unsubscribe id f with
    | error e => exact h
    | ok x => exact h.unsubscribe hu
  | enqueue id frame =>
    simp only [Operation.perform]
    cases he : r.enqueue id frame with
    | error e => exact h
    | ok x => exact h.quiet (.enqueue he)
  | popFrame id | cancel id => exact h.quiet (.update fun _ _ => rfl)
  | close id => exact h.close id
  | closeAll => exact h.closeAll
  | publish e => exact h.quiet (.publish e)
  | tryPublish e => exact h.quiet (.tryPublish e)
  | dispatch => exact h.quiet .dispatch
  | deliver => exact h.quiet .deliver

theorem of_reachable {capacity : Nat} (h : Reachable config capacity r) : Settled config r := by
  induction h with
  | start => exact new config capacity
  | step _ op hf ih => exact ih.perform op hf

/-- What all connections hold is held by those that are there. -/
theorem held_perm_live (h : Settled config r) : r.held.Perm (r.live.flatMap r.heldBy) := by
  have hsplit := (List.filter_append_perm (· ∈ r.live) (Keyed.keys r.connections)).flatMap_right
    r.heldBy
  have hthere : ((Keyed.keys r.connections).filter (· ∈ r.live)).Perm r.live := by
    refine (List.perm_ext_iff_of_nodup (h.keys_nodup.filter _) h.live_nodup).mpr fun id => ?_
    simpa using @h.live_known id
  have hgone : ((Keyed.keys r.connections).filter (fun id => !decide (id ∈ r.live))).flatMap
      r.heldBy = [] := by
    refine List.flatMap_eq_nil_iff.mpr fun id hid => ?_
    rw [heldBy, h.gone id (by simpa using (List.mem_filter.mp hid).2)]
    rfl
  rw [List.flatMap_append, hgone, List.append_nil] at hsplit
  exact hsplit.symm.trans (hthere.flatMap_right _)

theorem subscriptionCount_eq (h : Settled config r) : r.subscriptionCount = r.held.length := by
  have hone : ∀ id, ((r.connection? id).elim 0 fun c => c.owned.length) = (r.heldBy id).length := by
    intro id
    rw [heldBy, List.length_map, ownedBy]
    cases r.connection? id <;> rfl
  rw [h.held_perm_live.length_eq, subscriptionCount]
  induction r.live with
  | nil => rfl
  | cons id rest ih => rw [List.foldr_cons, List.flatMap_cons, List.length_append, ih, hone]

end Settled

/-- A connection that is there owns a subscription for a filter. -/
def Holds (r : Registry) (id : ConnectionId) (f : Filter) (sub : SubscriptionId) : Prop :=
  ∃ c, r.get? id = some c ∧ (f, sub) ∈ c.owned

theorem get?_eq_some_iff : r.get? id = some c ↔ id ∈ r.live ∧ r.connection? id = some c := by
  rw [get?]
  split_ifs with h
  · simp [isLive_iff.mp h]
  · simp [mt isLive_iff.mpr h]

theorem holds_iff_mem_ownedBy {sub : SubscriptionId} :
    r.Holds id f sub ↔ id ∈ r.live ∧ (f, sub) ∈ r.ownedBy id := by
  constructor
  · rintro ⟨c, hc, hm⟩
    obtain ⟨hl, hc⟩ := get?_eq_some_iff.mp hc
    exact ⟨hl, ownedBy_of_connection? hc ▸ hm⟩
  · rintro ⟨hl, hm⟩
    cases hc : r.connection? id with
    | none => simp [ownedBy, hc] at hm
    | some c => exact ⟨c, get?_eq_some_iff.mpr ⟨hl, hc⟩, ownedBy_of_connection? hc ▸ hm⟩

theorem Settled.holds_iff {config : RegistryConfig} (h : Settled config r) {sub : SubscriptionId} :
    r.Holds id f sub ↔ ⟨sub, f, id⟩ ∈ r.held := by
  rw [h.held_perm_live.mem_iff, List.mem_flatMap, holds_iff_mem_ownedBy]
  constructor
  · rintro ⟨hl, hm⟩
    exact ⟨id, hl, List.mem_map.mpr ⟨(f, sub), hm, rfl⟩⟩
  · rintro ⟨j, hl, hm⟩
    obtain ⟨p, hp, he⟩ := List.mem_map.mp hm
    obtain ⟨rfl, rfl, rfl⟩ : p.2 = sub ∧ p.1 = f ∧ j = id := by simpa using he
    exact ⟨hl, hp⟩

/-- The connection is not there, owns nothing, and the bus has nothing for it. -/
structure Released (r : Registry) (id : ConnectionId) : Prop where
  absent : r.isLive id = false
  owns_nothing : ∀ c, r.connection? id = some c → c.owned = []
  handles_nothing : ∀ p ∈ r.bus.table.rows, p.2.handler ≠ id

/-- The registry and its bus tell the same, within the limits of the registry. -/
structure Ownership (config : RegistryConfig) (r : Registry) : Prop where
  /-- The bus has what the connections own. -/
  isLive_iff_holds : ∀ sub, r.bus.isLive sub = true ↔ ∃ id f, r.Holds id f sub
  /-- A subscription is owned once. -/
  holder_unique : ∀ sub id f id' f', r.Holds id f sub → r.Holds id' f' sub → id = id' ∧ f = f'
  owners_eq : ∀ id f sub, r.Holds id f sub → Keyed.get? sub r.bus.table.owners = some f
  /-- Events for a subscription go to the connection that owns it. -/
  handler_holds : ∀ p ∈ r.bus.table.rows, r.Holds p.2.handler p.1 p.2.id
  subscriptions_eq : r.bus.stats.subscriptions = r.subscriptionCount
  closed_free : ∀ id, r.isLive id = false →
    (∀ c, r.connection? id = some c → c.owned = []) ∧ ∀ p ∈ r.bus.table.rows, p.2.handler ≠ id
  /-- Closing a connection that has been admitted releases it for good. -/
  close_released : ∀ id, (r.close id).1 = r.isLive id ∧ Released (r.close id).2 id ∧
    ((r.connection? id).isSome → ∀ r', Later (r.close id).2 r' → Released r' id)
  close_spares : ∀ id j f sub, j ≠ id → ((r.close id).2.Holds j f sub ↔ r.Holds j f sub)
  closeAll_released : ∀ id, Released r.closeAll id ∧
    ((r.connection? id).isSome → ∀ r', Later r.closeAll r' → Released r' id)
  connections_le : r.connectionCount ≤ config.maxConnections
  owned_le : ∀ id c, r.get? id = some c → c.owned.length ≤ config.maxSubscriptions
  firehose_allowed : ∀ id c, r.get? id = some c → 0 < c.firehoseCount → 0 < config.maxFirehose
  firehose_le_one : ∀ id c, r.get? id = some c → c.firehoseCount ≤ 1

section Reached

variable {config : RegistryConfig} {capacity : Nat}

theorem Reachable.backs (hr : Reachable config capacity r) : r.bus.Backs r.held :=
  List.append_nil r.held ▸ (Settled.of_reachable hr).backs

theorem Reachable.handler_holds (hr : Reachable config capacity r) :
    ∀ p ∈ r.bus.table.rows, r.Holds p.2.handler p.1 p.2.id := fun p hp =>
  (Settled.of_reachable hr).holds_iff.mpr
    (hr.backs.grants_perm.mem_iff.mp (List.mem_map.mpr ⟨p, hp, rfl⟩))

theorem Reachable.released (hr : Reachable config capacity r) (hid : id ∉ r.live) :
    Released r id := by
  have habsent : r.isLive id = false := by
    rw [← Bool.not_eq_true, isLive_iff]
    exact hid
  refine ⟨habsent, fun c hc => ?_, fun p hp he => ?_⟩
  · rw [← ownedBy_of_connection? hc]
    exact (Settled.of_reachable hr).gone id hid
  · obtain ⟨c, hc, -⟩ := hr.handler_holds p hp
    exact hid (he ▸ (get?_eq_some_iff.mp hc).1)

/-- A connection that is gone does not come back, since no identifier is given twice. -/
theorem Reachable.released_later (hr : Reachable config capacity r) (hid : id ∉ r.live)
    (hknown : (r.connection? id).isSome) (hlater : Later r r') : Released r' id :=
  (hr.later hlater).released ((Evolves.of_later hlater).gone id hknown hid)

theorem holds_close_iff {sub : SubscriptionId} {j : ConnectionId} (hj : j ≠ id) :
    (r.close id).2.Holds j f sub ↔ r.Holds j f sub := by
  obtain ⟨-, -, hlive, -, hother⟩ := r.close_frame id
  rw [holds_iff_mem_ownedBy, holds_iff_mem_ownedBy, hother j hj, hlive, List.mem_filter]
  simp [hj]

theorem ownership_of_reachable (hr : Reachable config capacity r) : Ownership config r := by
  have h := Settled.of_reachable hr
  have howned : ∀ id c, r.get? id = some c → r.ownedBy id = c.owned := fun id c hc =>
    ownedBy_of_connection? (get?_eq_some_iff.mp hc).2
  refine ⟨fun sub => ?_, fun sub id f id' f' hh hh' => ?_, fun id f sub hh => ?_, hr.handler_holds,
    ?_, fun id hid => ?_, fun id => ?_, fun id j f sub hj => holds_close_iff hj, fun id => ?_, ?_,
    fun id c hc => ?_, fun id c hc hpos => ?_, fun id c hc => ?_⟩
  · rw [hr.backs.isLive_iff, List.mem_map]
    constructor
    · rintro ⟨g, hg, rfl⟩
      exact ⟨g.handler, g.filter, h.holds_iff.mpr hg⟩
    · rintro ⟨id, f, hh⟩
      exact ⟨_, h.holds_iff.mp hh, rfl⟩
  · have he := List.inj_on_of_nodup_map hr.backs.ids_nodup (h.holds_iff.mp hh)
      (h.holds_iff.mp hh') rfl
    exact ⟨congrArg Bus.Grant.handler he, congrArg Bus.Grant.filter he⟩
  · exact hr.backs.owner (h.holds_iff.mp hh)
  · rw [hr.backs.subscriptions_eq, h.subscriptionCount_eq]
  · have hgone : id ∉ r.live := by
      rw [← isLive_iff, hid]
      exact Bool.false_ne_true
    obtain ⟨-, howns, hhandles⟩ := hr.released hgone
    exact ⟨howns, hhandles⟩
  · have hgone : id ∉ (r.close id).2.live := by simp [(r.close_frame id).2.2.1]
    have hclosed : Reachable config capacity (r.close id).2 := hr.step (.close id) trivial
    exact ⟨(r.close_frame id).1, hclosed.released hgone, fun hknown r' hlater =>
      hclosed.released_later hgone ((Evolves.close r id).isSome hknown) hlater⟩
  · have hgone : id ∉ r.closeAll.live := by simp [live_closeAll]
    have hclosed : Reachable config capacity r.closeAll := hr.step .closeAll trivial
    exact ⟨hclosed.released hgone, fun hknown r' hlater =>
      hclosed.released_later hgone ((Evolves.closeAll r).isSome hknown) hlater⟩
  · exact h.config_eq ▸ h.live_bound
  · exact h.config_eq ▸ howned id c hc ▸ h.owned_bound id
  · obtain ⟨f, hf⟩ := List.exists_mem_of_length_pos hpos
    obtain ⟨hf, hfire⟩ := List.mem_filter.mp hf
    exact h.config_eq ▸ h.firehose_allowed id f (howned id c hc ▸ hf) hfire
  · rw [Connection.firehoseCount, Connection.filters, ← howned id c hc]
    exact Filter.firehoses_le_one (h.filters_nodup id)

end Reached

/-- A connection that overflowed keeps its subscription until it is closed. The other one keeps its
own until all are. -/
theorem ownership_of_reachable_overflow :
    let config : RegistryConfig :=
      { maxConnections := 2, outboundCapacity := 1, overflowPolicy := .disconnect }
    ∃ r, Reachable config 4 r ∧ r.live = [⟨"a"⟩, ⟨"b"⟩] ∧
      (r.connection? ⟨"a"⟩).map Connection.isClosed = some true ∧
      r.bus.table.ids = [⟨1⟩, ⟨3⟩] ∧ Ownership config r ∧
      (r.close ⟨"a"⟩).1 = true ∧ (r.close ⟨"a"⟩).2.live = [⟨"b"⟩] ∧
      (r.close ⟨"a"⟩).2.bus.table.ids = [⟨3⟩] ∧ Ownership config (r.close ⟨"a"⟩).2 ∧
      (∀ r', Later (r.close ⟨"a"⟩).2 r' → Released r' ⟨"a"⟩) ∧
      (r.close ⟨"a"⟩).2.closeAll.live = [] ∧ (r.close ⟨"a"⟩).2.closeAll.bus.table.ids = [] ∧
      ∀ r', Later (r.close ⟨"a"⟩).2.closeAll r' → Released r' ⟨"b"⟩ := by
  intro config
  let t : Time.Timestamp := ⟨⟨2024, 1, 1⟩, 0, 0⟩
  let firehose : Filter := ⟨.any, none, none⟩
  let e : Event := ⟨"order.created", t, [], none, none⟩
  have hr₁ : Reachable config 4 _ := (Reachable.start.step (.register ⟨"a"⟩ none 0) rfl).step
    (.register ⟨"b"⟩ none 0) (by rw [Operation.Fresh]; decide +kernel)
  have hr₂ := ((hr₁.step (.subscribe t ⟨"a"⟩ firehose) trivial).step
    (.subscribe t ⟨"b"⟩ firehose) trivial).step
    (.subscribe t ⟨"b"⟩ ⟨.exact "x", none, none⟩) trivial
  have hr := (((hr₂.step (.publish e) trivial).step (.publish e) trivial).step
    .deliver trivial).step (.unsubscribe ⟨"b"⟩ firehose) trivial
  have hown := ownership_of_reachable hr
  have hown' := ownership_of_reachable (hr.step (.close ⟨"a"⟩) trivial)
  exact ⟨_, hr, by decide +kernel, by decide +kernel, by decide +kernel, hown, by decide +kernel,
    by decide +kernel, by decide +kernel, hown', (hown.close_released ⟨"a"⟩).2.2 (by decide +kernel),
    by decide +kernel, by decide +kernel, (hown'.closeAll_released ⟨"b"⟩).2 (by decide +kernel)⟩

end Registry

end Fanout
