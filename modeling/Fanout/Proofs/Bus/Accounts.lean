import Fanout.Proofs.Bus.Drain
import Mathlib.Algebra.GroupWithZero.Nat
import Mathlib.Data.List.Dedup

/-!
What the table and the counters of a bus tell, against an account of the subscriptions made and
removed and of every turn of the loop. Main statement: they agree at any moment of any run, whatever
handlers do.
-/
namespace Fanout

namespace SubscriptionTable

variable {H : Type} {t : SubscriptionTable H}

/-- The filters under which a subscription stands, as often as it stands there. -/
def filtersOf (t : SubscriptionTable H) (id : SubscriptionId) : List Filter :=
  t.entries.flatMap fun p => (p.2.filter fun s => s.id = id).map fun _ => p.1

theorem filtersOf_eq (t : SubscriptionTable H) (id : SubscriptionId) :
    t.filtersOf id = (t.rows.filter fun p => p.2.id = id).map Prod.fst := by
  unfold filtersOf rows
  induction t.entries with
  | nil => rfl
  | cons p rest ih =>
    rw [List.flatMap_cons, ih, ungroup_cons, List.filter_append, List.map_append, List.filter_map,
      List.map_map]
    rfl

theorem list_perm (t : SubscriptionTable H) :
    t.list.Perm (t.rows.map fun p => ⟨p.2.id, p.1, p.2.createdAt⟩) := by
  refine (List.mergeSort_perm _ _).trans ?_
  rw [rows, ungroup, List.map_flatMap]
  simp only [List.map_map]
  exact .refl _

namespace WellFormed

/-- Where the owners have a subscription it stands once, and nowhere else. -/
theorem filtersOf_eq (h : t.WellFormed) (id : SubscriptionId) :
    t.filtersOf id = (Keyed.get? id t.owners).toList := by
  rw [t.filtersOf_eq]
  cases hf : Keyed.get? id t.owners with
  | none =>
    have hnone : (t.rows.filter fun p => p.2.id = id) = [] := by
      refine List.filter_eq_nil_iff.mpr fun p hp hid => ?_
      exact Keyed.get?_eq_none_iff.mp hf (h.mem_ids_iff.mpr ⟨p, hp, by simpa using hid⟩)
    rw [hnone]
    rfl
  | some f =>
    obtain ⟨s, hs, rfl⟩ := h.get?_owners_iff.mp hf
    rw [h.filter_rows_id hs]
    rfl

theorem list_increasing (h : t.WellFormed) :
    (t.list.map fun i => i.id.number).Pairwise (· < ·) := by
  have hsorted : t.list.Pairwise fun a b => decide (a.id.number ≤ b.id.number) = true := by
    unfold list
    refine List.pairwise_mergeSort (fun a b c hab hbc => ?_) (fun a b => ?_) _
    · simp only [decide_eq_true_eq] at hab hbc ⊢
      omega
    · simp only [Bool.or_eq_true, decide_eq_true_eq]
      omega
  have hids : (t.list.map SubscriptionInfo.id).Nodup := by
    have hperm := (t.list_perm.map SubscriptionInfo.id)
    rw [List.map_map] at hperm
    exact hperm.nodup_iff.mpr h.row_ids_nodup
  rw [List.pairwise_map]
  refine (hsorted.and (List.pairwise_map.mp hids)).imp fun ⟨hle, hne⟩ => ?_
  exact Nat.lt_of_le_of_ne (of_decide_eq_true hle) fun heq => hne (congrArg SubscriptionId.mk heq)

/-- Every filter has one entry, which is not empty. -/
theorem distinctFilters_eq (h : t.WellFormed) :
    t.distinctFilters = (t.rows.map Prod.fst).dedup.length := by
  have hmem : ∀ f, f ∈ Keyed.keys t.entries ↔ f ∈ (t.rows.map Prod.fst).dedup := by
    intro f
    rw [List.mem_dedup, List.mem_map]
    constructor
    · intro hf
      obtain ⟨⟨g, ss⟩, hp, rfl⟩ := List.mem_map.mp hf
      obtain ⟨s, hs⟩ := List.exists_mem_of_ne_nil ss (h.no_empty_entry _ hp)
      exact ⟨(g, s), List.mem_flatMap.mpr ⟨_, hp, List.mem_map.mpr ⟨s, hs, rfl⟩⟩, rfl⟩
    · rintro ⟨p, hp, rfl⟩
      exact filter_mem_of_mem_ungroup hp
  have hperm := (List.perm_ext_iff_of_nodup h.filters_nodup (List.nodup_dedup _)).mpr hmem
  rw [← hperm.length_eq, Keyed.keys, List.length_map]
  rfl

end WellFormed

end SubscriptionTable

namespace Bus

variable {H : Type}

/-- The subscriptions made and not removed. The end of a shutdown removes all. -/
def World.live (w : World H) : List (Grant H) :=
  if w.bus.draining = .done then [] else w.ledger.standing

namespace Orderly

variable {w : World H}

theorem table (h : Orderly w) : w.bus.table.WellFormed := h.faithful.registered.table

theorem live_perm (h : Orderly w) : (grantsIn w.bus.table).Perm w.live := by
  unfold World.live
  split_ifs with hd
  · have hrows : w.bus.table.rows = [] := by
      rw [SubscriptionTable.rows, (h.phased.cleared hd).1]
      rfl
    rw [grantsIn, hrows]
    exact .refl _
  · exact h.standing hd

theorem listed (h : Orderly w) : (w.bus.table.list.map fun i => (i.id, i.filter)).Perm
    (w.live.map fun g => (g.id, g.filter)) := by
  have hlist := w.bus.table.list_perm.map fun i => (i.id, i.filter)
  have hlive := h.live_perm.map fun g => (g.id, g.filter)
  rw [List.map_map] at hlist
  rw [grantsIn, List.map_map] at hlive
  exact hlist.trans hlive

theorem mem_live_iff (h : Orderly w) {id : SubscriptionId} :
    id ∈ w.live.map Grant.id ↔ id ∈ w.bus.table.ids := by
  have hlive := h.live_perm.map Grant.id
  rw [grantsIn, List.map_map] at hlive
  exact hlive.mem_iff.symm.trans h.table.ids_perm.mem_iff.symm

theorem unsubscribe_iff (h : Orderly w) (id : SubscriptionId) :
    (w.bus.unsubscribe id).1 = true ↔ id ∈ w.live.map Grant.id := by
  rw [h.mem_live_iff, unsubscribe_eq, SubscriptionTable.remove, SubscriptionTable.ids,
    Keyed.mem_keys_iff]
  cases Keyed.get? id w.bus.table.owners <;> simp

theorem distinctFilters_eq (h : Orderly w) :
    w.bus.table.distinctFilters = (w.live.map Grant.filter).dedup.length := by
  have hlive := h.live_perm.map Grant.filter
  rw [grantsIn, List.map_map] at hlive
  rw [h.table.distinctFilters_eq]
  exact hlive.dedup.length_eq

theorem size_eq (h : Orderly w) : w.bus.table.size = w.live.length := by
  rw [← h.live_perm.length_eq, grantsIn, List.length_map, SubscriptionTable.size,
    h.table.owners_perm.length_eq, List.length_map]

/-- An event goes to the subscriptions that live and want it. -/
theorem length_targets (h : Orderly w) (e : Event) :
    (w.bus.table.targets e).length = (w.live.filter fun g => g.filter.accepts e).length := by
  rw [targets_eq_grants, List.length_map]
  exact (h.live_perm.filter _).length_eq

end Orderly

/-- Whether a call has put its event on the queue and not yet counted it. -/
def Publisher.isPlaced : Publisher → Bool
  | .placed _ => true
  | _ => false

/-- A call counts what it has put on the queue, one step later. -/
theorem Publisher.advance_published (b : Bus H) (p : Publisher) :
    (p.advance b).2.counters.published + (p.advance b).1.isPlaced.toNat =
      b.counters.published + p.isPlaced.toNat + (p.newlyAccepted (p.advance b).1).length := by
  cases p with
  | holding e waits =>
    simp only [advance]
    cases hp : b.place e with
    | some b₁ =>
      obtain ⟨c, -, rfl⟩ := place_eq hp
      rfl
    | none => cases waits <;> rfl
  | waiting e =>
    simp only [advance]
    cases hp : b.placeReserved e with
    | some b₁ =>
      obtain ⟨c, -, rfl⟩ := placeReserved_eq hp
      rfl
    | none => rfl
  | placed e | recorded e | refused e => rfl
  | returned e result =>
    simp [advance, newlyAccepted_self]

namespace World

/-- From `w` to `w'` no event was dispatched and no handler ended. Events that were accepted have been
counted or will be. -/
structure Steady (w w' : World H) : Prop where
  counters : ∃ n, w'.bus.counters = { w.bus.counters with published := n }
  targets : w'.bus.current.map Dispatch.targets = w.bus.current.map Dispatch.targets
  published : w'.bus.counters.published + w'.ledger.publishers.countP Publisher.isPlaced +
      w.ledger.accepted.length =
    w.bus.counters.published + w.ledger.publishers.countP Publisher.isPlaced +
      w'.ledger.accepted.length

namespace Steady

variable {w w' : World H}

theorem refl (w : World H) : Steady w w := ⟨⟨_, rfl⟩, rfl, rfl⟩

theorem trans {w'' : World H} (h : Steady w w') (k : Steady w' w'') : Steady w w'' where
  counters := by
    obtain ⟨m, hm⟩ := h.counters
    obtain ⟨n, hn⟩ := k.counters
    exact ⟨n, by rw [hn, hm]⟩
  targets := k.targets.trans h.targets
  published := by
    have := h.published
    have := k.published
    omega

/-- A change that is no matter of publishers or of the loop. -/
theorem of_eq (hk : w'.bus.counters = w.bus.counters) (hc : w'.bus.current = w.bus.current)
    (hp : w'.ledger.publishers = w.ledger.publishers)
    (ha : w'.ledger.accepted = w.ledger.accepted) : Steady w w' := by
  refine ⟨⟨_, hk⟩, ?_, ?_⟩ <;> simp only [hk, hc, hp, ha]

theorem advance (h : Orderly w) (n : Nat) : Steady w ((Move.advance n).perform w) := by
  simp only [Move.perform]
  split
  · rename_i p hn
    obtain ⟨hlt, hget⟩ := List.getElem?_eq_some_iff.mp hn
    have hpublished := Publisher.advance_published w.bus p
    obtain ⟨c, k, t, hb, -⟩ := Publisher.advance_eq (h.senders_pos (List.mem_of_getElem? hn))
    have hbefore := (List.getElem_cons_eraseIdx_perm hlt).symm.countP_eq Publisher.isPlaced
    have hafter := (List.set_perm_cons_eraseIdx hlt (p.advance w.bus).1).countP_eq
      Publisher.isPlaced
    rw [hget] at hbefore
    rw [List.countP_cons] at hbefore hafter
    have htoNat : ∀ b : Bool, b.toNat = if b = true then 1 else 0 := by
      intro b
      cases b <;> rfl
    rw [htoNat, htoNat] at hpublished
    refine ⟨⟨k, by simp only [hb]⟩, ?_, ?_⟩
    · simp only [hb]
    · simp only [List.length_append]
      omega
  · exact .refl w

theorem perform (h : Orderly w) (m : Move H) : Steady w (m.perform w) := by
  cases m with
  | subscribe now f handler =>
    simp only [Move.perform]
    split
    · rename_i id b hs
      obtain ⟨-, -, rfl⟩ := subscribe_eq hs
      exact of_eq rfl rfl rfl rfl
    · exact .refl w
  | unsubscribe id =>
    simp only [Move.perform, unsubscribe_eq]
    split_ifs <;> exact of_eq rfl rfl rfl rfl
  | publish e waits =>
    obtain ⟨hb, ha⟩ := Publisher.enter_eq w.bus e waits
    have hplaced : (Publisher.enter w.bus e waits).1.isPlaced = false := by
      cases hp : (Publisher.enter w.bus e waits).1 with
      | placed e => simp [hp, Publisher.accepted?] at ha
      | _ => rfl
    simp only [Move.perform]
    refine ⟨⟨w.bus.counters.published, by simp only [hb]⟩, ?_, ?_⟩
    · simp only [hb]
    · simp [hb, hplaced]
  | advance n => exact advance h n
  | takeFrame =>
    simp only [Move.perform, Bus.takeFrame]
    cases hd : w.bus.current with
    | none => exact .refl w
    | some d => exact ⟨⟨_, rfl⟩, by simp [hd], rfl⟩
  | shutdown => exact of_eq rfl rfl rfl rfl
  | close n =>
    simp only [Move.perform]
    split
    · rename_i c _
      obtain ⟨hb, -⟩ | ⟨-, ⟨-, hb⟩ | ⟨-, hb⟩ | ⟨-, hb⟩ | ⟨-, -, -, hb⟩⟩ := c.advance_cases w.bus <;>
        simp only [hb] <;> exact of_eq rfl rfl rfl rfl
    · exact .refl w
  | abandon n =>
    simp only [Move.perform]
    split
    · rename_i c _
      obtain ⟨hb, -⟩ | ⟨-, -, hd, hb⟩ := c.abandon_cases w.bus
      · simp only [hb]
        exact of_eq rfl rfl rfl rfl
      · simp only [hb, abandonShutdown_eq hd]
        exact of_eq rfl rfl rfl rfl
    · exact .refl w

theorem performAll (h : Orderly w) (script : List (Move H)) :
    Steady w (World.performAll script w) := by
  induction script generalizing w with
  | nil => exact .refl w
  | cons m rest ih => exact (perform h m).trans (ih (h.perform m))

end Steady

end World

/-- One event taken off the queue, with the subscriptions that lived then. -/
structure Round (H : Type) where
  event : Event
  live : List (Grant H)

namespace Round

def filters (r : Round H) : Nat := (r.live.map Grant.filter).dedup.length

def wanted (r : Round H) : Nat := (r.live.filter fun g => g.filter.accepts r.event).length

end Round

namespace World

/-- The round that begins between two states, if one does. -/
def begun (x y : World H) : List (Round H) :=
  match x.bus.current, y.bus.current with
  | none, some d => [⟨d.event, x.live⟩]
  | _, _ => []

theorem begun_eq_nil {x y : World H} (h : x.bus.current = none → y.bus.current = none) :
    begun x y = [] := by
  cases hx : x.bus.current with
  | some d => simp [begun, hx]
  | none => simp [begun, hx, h hx]

theorem begun_perform {w : World H} (h : Orderly w) (m : Move H) : begun w (m.perform w) = [] := by
  refine begun_eq_nil fun hd => ?_
  have htargets := (Steady.perform h m).targets
  rw [hd] at htargets
  exact Option.map_eq_none_iff.mp htargets

theorem noteDispatch_of_some {before : Bus H} {d : Dispatch H} (hd : before.current = some d)
    (l : Ledger H) (after : Bus H) : noteDispatch l before after = l := by
  simp [noteDispatch, hd]

/-- A run from a new bus, with the rounds that have begun in it. -/
inductive History (capacity : Nat) : World H → List (Round H) → Prop where
  | start : History capacity ⟨.new capacity, {}⟩ []
  | next {x y : World H} {rounds : List (Round H)} : History capacity x rounds → Step x y →
      History capacity y (rounds ++ begun x y)

/-- What is left to call in the round under way. -/
def left (w : World H) : List (SubscriptionId × H) :=
  (w.bus.current.map Dispatch.targets).getD []

def calling (w : World H) (d : Dispatch H) (id : SubscriptionId) (handler : H)
    (rest : List (SubscriptionId × H)) : World H :=
  let b := { w.bus with current := some { d with targets := rest } }
  ⟨b, { w.ledger with toJournal := w.ledger.noteInvocation b id handler }⟩

theorem orderly_calling {w : World H} (h : Orderly w) {d : Dispatch H} {id : SubscriptionId} {handler : H}
    {rest : List (SubscriptionId × H)} (hd : w.bus.current = some d)
    (ht : d.targets = (id, handler) :: rest) : Orderly (w.calling d id handler rest) :=
  h.retell (h.faithful.noteInvocation hd ht)

/-- A moment of a run: between two steps, or after some moves while a handler runs. -/
inductive Moment (capacity : Nat) : World H → List (Round H) → (running : Nat) → Prop where
  | between {w : World H} {rounds : List (Round H)} (h : History capacity w rounds) :
      Moment capacity w rounds 0
  | within {w : World H} {rounds : List (Round H)} (h : History capacity w rounds)
      {d : Dispatch H} {id : SubscriptionId} {handler : H} {rest : List (SubscriptionId × H)}
      (hd : w.bus.current = some d) (ht : d.targets = (id, handler) :: rest)
      (script : List (Move H)) :
      Moment capacity (performAll script (w.calling d id handler rest)) rounds 1

/-- The counters tell of the events accepted and of the rounds. -/
structure Tallied (w : World H) (rounds : List (Round H)) (running : Nat) : Prop where
  published : w.bus.counters.published + w.ledger.publishers.countP Publisher.isPlaced =
    w.ledger.accepted.length
  dispatched : w.bus.counters.dispatched = rounds.length
  evaluated : w.bus.counters.matcherEvaluations = (rounds.map Round.filters).sum
  handled : w.bus.counters.deliveries + w.bus.counters.handlerFailures + w.left.length + running =
    (rounds.map Round.wanted).sum

namespace Tallied

variable {w w' : World H} {rounds : List (Round H)} {running : Nat}

theorem start (capacity : Nat) : Tallied (⟨.new capacity, {}⟩ : World H) [] 0 :=
  ⟨rfl, rfl, rfl, rfl⟩

theorem steady (h : Tallied w rounds running) (hs : Steady w w') :
    Tallied w' rounds running := by
  obtain ⟨n, hcounters⟩ := hs.counters
  refine ⟨?_, ?_, ?_, ?_⟩
  · have := h.published
    have := hs.published
    omega
  · rw [hcounters]
    exact h.dispatched
  · rw [hcounters]
    exact h.evaluated
  · rw [hcounters, left, hs.targets]
    exact h.handled

theorem calling (h : Tallied w rounds 0) {d : Dispatch H} {id : SubscriptionId} {handler : H}
    {rest : List (SubscriptionId × H)} (hd : w.bus.current = some d)
    (ht : d.targets = (id, handler) :: rest) : Tallied (w.calling d id handler rest) rounds 1 where
  published := h.published
  dispatched := h.dispatched
  evaluated := h.evaluated
  handled := by
    have hhandled := h.handled
    simp only [left, hd, Option.map_some, Option.getD_some, ht, List.length_cons] at hhandled
    simp only [left, World.calling, Option.map_some, Option.getD_some]
    omega

theorem recordOutcome (h : Tallied w rounds 1) (id : SubscriptionId) (type : String)
    (o : HandlerOutcome) : Tallied ⟨w.bus.recordOutcome id type o, w.ledger⟩ rounds 0 := by
  have hhandled := h.handled
  cases o with
  | handled | failed reason | crashed message =>
    refine ⟨h.published, h.dispatched, h.evaluated, ?_⟩
    simp only [left, Bus.recordOutcome] at hhandled ⊢
    omega

/-- A round begins with all that live and want the event still to be called. -/
theorem dispatching (ho : Orderly w) (h : Tallied w rounds 0) (hd : w.bus.current = none)
    (e : Event) (c : Channel Event) : Tallied ⟨w.bus.dispatching e c, { w.ledger with
      snapshots := w.ledger.snapshots ++ [w.bus.table]
      stood := w.ledger.stood ++ [w.ledger.standing] }⟩ (rounds ++ [⟨e, w.live⟩]) 0 := by
  have hleft : w.left = [] := by simp [left, hd]
  have hhandled := h.handled
  rw [hleft] at hhandled
  refine ⟨h.published, ?_, ?_, ?_⟩
  · rw [List.length_append, ← h.dispatched]
    rfl
  · simp only [Bus.dispatching, List.map_append, List.sum_append, List.map_cons, List.map_nil,
      List.sum_singleton, h.evaluated, ho.distinctFilters_eq]
    rfl
  · have htargets := ho.length_targets e
    simp only [left, Bus.dispatching, Option.map_some, Option.getD_some, List.map_append,
      List.sum_append, List.map_cons, List.map_nil, List.sum_singleton, Round.wanted, htargets]
    simp only [List.length_nil] at hhandled
    omega

theorem deliver (ho : Orderly w) (h : Tallied w rounds 0) (script : List (Move H))
    (outcome : HandlerOutcome) :
    Tallied (World.deliver script outcome w)
      (rounds ++ begun w (World.deliver script outcome w)) 0 := by
  unfold World.deliver
  split
  · rename_i b l hs
    obtain ⟨d, hd, ht, rfl, rfl⟩ | ⟨d, id, handler, rest, o, b₁, hd, ht, hreact, rfl⟩ |
      ⟨e, c, hd, hc, rfl, rfl⟩ | ⟨hd, hf, rfl, rfl⟩ := stepLoop_cases hs
    · have hhandled := h.handled
      simp only [left, hd, Option.map_some, Option.getD_some, ht] at hhandled
      rw [begun_eq_nil (by simp [hd]), List.append_nil, noteDispatch_of_some hd]
      exact ⟨h.published, h.dispatched, h.evaluated, hhandled⟩
    · have hcalled := orderly_calling ho hd ht
      simp only [handle, Prod.mk.injEq] at hreact
      obtain ⟨rfl, rfl, rfl⟩ := hreact
      rw [begun_eq_nil (by simp [hd]), List.append_nil, noteDispatch_of_some hd]
      exact ((h.calling hd ht).steady (.performAll hcalled script)).recordOutcome id d.event.type
        outcome
    · have hbegun : begun w ⟨w.bus.dispatching e c, noteDispatch w.ledger w.bus
          (w.bus.dispatching e c)⟩ = [⟨e, w.live⟩] := by
        simp [begun, hd, Bus.dispatching]
      rw [hbegun]
      simpa [noteDispatch, hd, Bus.dispatching] using h.dispatching ho hd e c
    · have hnote : noteDispatch w.ledger w.bus { w.bus with loopEnded := true } = w.ledger := by
        simp [noteDispatch, hd]
      rw [hnote, begun_eq_nil (by simp), List.append_nil]
      exact ⟨h.published, h.dispatched, h.evaluated, h.handled⟩
  · rw [begun_eq_nil (by simp), List.append_nil]
    exact h

theorem step {y : World H} (ho : Orderly w) (h : Tallied w rounds 0) (hs : Step w y) :
    Tallied y (rounds ++ begun w y) 0 := by
  cases hs with
  | move m =>
    rw [begun_perform ho, List.append_nil]
    exact h.steady (.perform ho m)
  | deliver script outcome => exact h.deliver ho script outcome
  | reorder _ entries hp =>
    rw [begun_eq_nil (by simp), List.append_nil]
    exact ⟨h.published, h.dispatched, h.evaluated, h.handled⟩

end Tallied

variable {capacity : Nat} {w : World H} {rounds : List (Round H)} {running : Nat}

theorem History.reachable (h : History capacity w rounds) : Reachable capacity w := by
  induction h with
  | start => exact .refl
  | next _ hs ih => exact ih.tail hs

theorem History.performAll (h : History capacity w rounds) (script : List (Move H)) :
    History capacity (performAll script w) rounds := by
  induction script generalizing w with
  | nil => exact h
  | cons m rest ih =>
    have hnext := h.next (.move m w)
    rw [begun_perform (.of_reachable h.reachable), List.append_nil] at hnext
    exact ih hnext

theorem History.tallied (h : History capacity w rounds) : Tallied w rounds 0 := by
  induction h with
  | start => exact .start capacity
  | next hbefore hs ih => exact ih.step (.of_reachable hbefore.reachable) hs

theorem Moment.orderly (h : Moment capacity w rounds running) : Orderly w := by
  cases h with
  | between h => exact .of_reachable h.reachable
  | within h hd ht script =>
    exact (orderly_calling (.of_reachable h.reachable) hd ht).performAll script

theorem Moment.tallied (h : Moment capacity w rounds running) : Tallied w rounds running := by
  cases h with
  | between h => exact h.tallied
  | within h hd ht script =>
    have hcalled := orderly_calling (.of_reachable h.reachable) hd ht
    exact (h.tallied.calling hd ht).steady (.performAll hcalled script)

/-- The handler that runs belongs to the round under way. -/
theorem Moment.running_eq_zero (h : Moment capacity w rounds running) (hd : w.bus.current = none) :
    running = 0 := by
  cases h with
  | between _ => rfl
  | within h hd' ht script =>
    have hcalled := orderly_calling (.of_reachable h.reachable) hd' ht
    have htargets := (Steady.performAll hcalled script).targets
    rw [hd] at htargets
    cases htargets

/-- What the bus tells agrees with the subscriptions that live and the rounds that have begun. -/
structure Accounted (w : World H) (rounds : List (Round H)) (running : Nat) : Prop where
  /-- A subscription stands under its own filter, once, and nowhere else. -/
  owners : ∀ id, w.bus.table.filtersOf id = (Keyed.get? id w.bus.table.owners).toList
  keys : (Keyed.keys w.bus.table.owners).Nodup ∧ (Keyed.keys w.bus.table.entries).Nodup
  no_empty_entry : ∀ p ∈ w.bus.table.entries, p.2 ≠ []
  listed : (w.bus.table.list.map fun i => (i.id, i.filter)).Perm
    (w.live.map fun g => (g.id, g.filter))
  increasing : (w.bus.table.list.map fun i => i.id.number).Pairwise (· < ·)
  unsubscribe : ∀ id, (w.bus.unsubscribe id).1 = true ↔ id ∈ w.live.map Grant.id
  subscriptions : w.bus.stats.subscriptions = w.live.length
  distinctFilters : w.bus.stats.distinctFilters = (w.live.map Grant.filter).dedup.length
  dispatched : w.bus.stats.counters.dispatched = rounds.length
  /-- While nobody is publishing. -/
  published : (∀ p ∈ w.ledger.publishers, p.hasSender = false) →
    w.bus.stats.counters.published = w.bus.stats.counters.dispatched + w.bus.channel.items.length
  evaluated : w.bus.stats.counters.matcherEvaluations = (rounds.map Round.filters).sum
  /-- Between two rounds. -/
  settled : w.bus.current = none →
    w.bus.stats.counters.deliveries + w.bus.stats.counters.handlerFailures =
      (rounds.map Round.wanted).sum
  /-- During a round, with handlers still to be called and maybe one that runs. -/
  underway : ∀ d, w.bus.current = some d →
    w.bus.stats.counters.deliveries + w.bus.stats.counters.handlerFailures + d.targets.length +
      running = (rounds.map Round.wanted).sum

/-- With nobody publishing, every event accepted has been counted. -/
theorem Tallied.published_eq (h : Tallied w rounds running)
    (hp : ∀ p ∈ w.ledger.publishers, p.hasSender = false) :
    w.bus.counters.published = w.ledger.accepted.length := by
  have hplaced : w.ledger.publishers.countP Publisher.isPlaced = 0 := by
    refine List.countP_eq_zero.mpr fun p hmem hplaced => ?_
    have hreturned := hp p hmem
    cases p with
    | placed e => cases hreturned
    | _ => cases hplaced
  have hpublished := h.published
  rw [hplaced] at hpublished
  exact hpublished

/-- What the bus tells is right at any moment of any run. -/
theorem accounted_of_moment (h : Moment capacity w rounds running) : w.Accounted rounds running := by
  have ho := h.orderly
  have ht := h.tallied
  refine ⟨ho.table.filtersOf_eq, ⟨ho.table.ids_nodup, ho.table.filters_nodup⟩,
    ho.table.no_empty_entry, ho.listed, ho.table.list_increasing, ho.unsubscribe_iff, ho.size_eq,
    ho.distinctFilters_eq, ht.dispatched, fun hp => ?_, ht.evaluated, fun hd => ?_, fun d hd => ?_⟩
  · obtain ⟨taken, htaken, hlen⟩ := ho.faithful.queue
    have hturn := ho.faithful.turn
    have haccepted : w.ledger.accepted.length = taken.length + w.bus.channel.items.length := by
      rw [← List.length_append]
      exact congrArg List.length htaken
    exact (ht.published_eq hp).trans (by rw [haccepted, hlen, ← hturn]; rfl)
  · have hhandled := ht.handled
    rw [h.running_eq_zero hd, left, hd] at hhandled
    exact hhandled
  · have hhandled := ht.handled
    rw [left, hd] at hhandled
    exact hhandled

/-- Of two subscriptions that share a filter one crashes, and the other runs although it was taken
back meanwhile, with the only one that had another filter. -/
theorem accounted_of_moment_shared :
    let t : Time.Timestamp := ⟨⟨2024, 1, 1⟩, 0, 0⟩
    let e : String → Event := fun type => ⟨type, t, [], none, none⟩
    let x₀ : World Nat := ⟨.new 2, {}⟩
    let x₁ := performAll [.subscribe t ⟨.any, none, none⟩ 7, .subscribe t ⟨.any, none, none⟩ 8,
      .subscribe t ⟨.exact "b", none, none⟩ 9, .publish (e "a") false, .advance 0, .advance 0,
      .advance 0] x₀
    let x₂ := deliver [] .handled x₁
    let x₃ := deliver [.unsubscribe ⟨2⟩, .unsubscribe ⟨3⟩] (.crashed none) x₂
    let d := x₃.bus.current.getD ⟨e "a", false, []⟩
    let script := [.publish (e "b") false, .advance 1, .advance 1, .advance 1]
    let x := performAll script (x₃.calling d ⟨2⟩ 8 [])
    let rounds := begun x₁ x₂ ++ begun x₂ x₃
    x.Accounted rounds 1 ∧ x.bus.stats.subscriptions = 1 ∧ x.bus.stats.distinctFilters = 1 ∧
      x.bus.stats.counters.published = x.bus.stats.counters.dispatched + 1 ∧
      x.bus.stats.counters.matcherEvaluations = 2 ∧
      x.bus.stats.counters.deliveries + x.bus.stats.counters.handlerFailures + 1 = 2 := by
  intro t e x₀ x₁ x₂ x₃ d script x rounds
  have hx₁ : History 2 x₁ [] := History.start.performAll _
  have hx₂ : History 2 x₂ ([] ++ begun x₁ x₂) := hx₁.next (.deliver _ _ x₁)
  rw [List.nil_append] at hx₂
  have hx₃ : History 2 x₃ rounds := hx₂.next (.deliver _ _ x₂)
  have hsome : x₃.bus.current.isSome = true := by decide +kernel
  have hcurrent : x₃.bus.current = some d := by
    obtain ⟨d₀, hd₀⟩ := Option.isSome_iff_exists.mp hsome
    simp only [d, hd₀, Option.getD_some]
  have htargets : d.targets = [(⟨2⟩, 8)] := by decide +kernel
  have h : x.Accounted rounds 1 := accounted_of_moment (.within hx₃ hcurrent htargets script)
  have hlive : x.live.length = 1 := by decide +kernel
  have hfilters : (x.live.map Grant.filter).dedup.length = 1 := by decide +kernel
  have hreturned : ∀ p ∈ x.ledger.publishers, p.hasSender = false := by decide +kernel
  have hqueued : x.bus.channel.items.length = 1 := by decide +kernel
  have hevaluated : (rounds.map Round.filters).sum = 2 := by decide +kernel
  have hwanted : (rounds.map Round.wanted).sum = 2 := by decide +kernel
  have hleft : x.bus.current.map Dispatch.targets = some [] := by decide +kernel
  obtain ⟨d', hd', hnone⟩ := Option.map_eq_some_iff.mp hleft
  have hpublished := h.published hreturned
  have hunderway := h.underway d' hd'
  rw [hqueued] at hpublished
  rw [hnone, List.length_nil, Nat.add_zero, hwanted] at hunderway
  exact ⟨h, h.subscriptions.trans hlive, h.distinctFilters.trans hfilters, hpublished,
    h.evaluated.trans hevaluated, hunderway⟩

end World

end Bus

end Fanout
