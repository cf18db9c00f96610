import Fanout.Proofs.Bus.Operations
import Fanout.Proofs.Bus.Table

/-!
Runs of the bus, with a journal of what happened. Callers and the delivery loop take turns in any
order. While a handler runs, it and everyone else may call the bus, and a handler may end in any way.
-/
namespace Fanout.Bus

variable {H : Type}

/-- What callers do to a bus. A publisher takes the steps from `acquire` to `release` one by one. -/
inductive Call (H : Type) where
  | subscribe (now : Time.Timestamp) (f : Filter) (h : H)
  | unsubscribe (id : SubscriptionId)
  | acquire
  | place (e : Event)
  | awaitRoom
  | placeReserved (e : Event)
  | recordPublished
  | release
  | tryPublish (e : Event)
  | takeFrame
  | beginShutdown
  | stepShutdown
  | abandonShutdown

structure Grant (H : Type) where
  id : SubscriptionId
  filter : Filter
  handler : H

/-- A call of a handler. `turn` is the number of the dispatch, from one on. -/
structure Invocation (H : Type) where
  turn : Nat
  id : SubscriptionId
  handler : H
  event : Event

structure Journal (H : Type) where
  /-- Subscriptions made, also those that are gone. -/
  granted : List (Grant H) := []
  /-- Events put on the queue, in order. -/
  accepted : List Event := []
  /-- The table as each dispatch found it when it noted its targets. -/
  snapshots : List (SubscriptionTable H) := []
  /-- Handlers called, in order. -/
  invoked : List (Invocation H) := []

structure Journaled (H : Type) where
  bus : Bus H
  journal : Journal H := {}

/-- Makes a call. One that is refused changes nothing, except that a publisher without room is
counted. -/
def Call.perform : Call H → Journaled H → Journaled H
  | .subscribe now f h, x =>
    match x.bus.subscribe now f h with
    | .ok (id, bus) => ⟨bus, { x.journal with granted := x.journal.granted ++ [⟨id, f, h⟩] }⟩
    | .error _ => x
  | .unsubscribe id, x => { x with bus := (x.bus.unsubscribe id).2 }
  | .acquire, x =>
    match x.bus.acquire with
    | .ok bus => { x with bus }
    | .error _ => x
  | .place e, x =>
    match x.bus.place e with
    | some bus => ⟨bus, { x.journal with accepted := x.journal.accepted ++ [e] }⟩
    | none => x
  | .awaitRoom, x => { x with bus := x.bus.awaitRoom }
  | .placeReserved e, x =>
    match x.bus.placeReserved e with
    | some bus => ⟨bus, { x.journal with accepted := x.journal.accepted ++ [e] }⟩
    | none => x
  | .recordPublished, x => { x with bus := x.bus.recordPublished }
  | .release, x => { x with bus := x.bus.release }
  | .tryPublish e, x =>
    match x.bus.tryPublish e with
    | (.ok (), bus) => ⟨bus, { x.journal with accepted := x.journal.accepted ++ [e] }⟩
    | (.error _, bus) => { x with bus }
  | .takeFrame, x =>
    match x.bus.takeFrame with
    | some (_, bus) => { x with bus }
    | none => x
  | .beginShutdown, x => { x with bus := x.bus.beginShutdown }
  | .stepShutdown, x => { x with bus := x.bus.stepShutdown.getD x.bus }
  | .abandonShutdown, x => { x with bus := x.bus.abandonShutdown }

def performAll (script : List (Call H)) (x : Journaled H) : Journaled H :=
  script.foldl (fun x c => c.perform x) x

def Journal.noteInvocation (j : Journal H) (b : Bus H) (id : SubscriptionId) (h : H) : Journal H :=
  match b.current with
  | some d => { j with invoked := j.invoked ++ [⟨b.counters.dispatched, id, h, d.event⟩] }
  | none => j

/-- A handler during which the calls of `script` are made and that ends with `outcome`. -/
def scripted (script : List (Call H)) (outcome : HandlerOutcome) : React H (Journal H) :=
  fun id h b j =>
    let x := performAll script ⟨b, j.noteInvocation b id h⟩
    (outcome, x.bus, x.journal)

def Journal.noteSnapshot (j : Journal H) (before after : Bus H) : Journal H :=
  if before.current.isNone && after.current.isSome then
    { j with snapshots := j.snapshots ++ [before.table] }
  else j

def deliver (script : List (Call H)) (outcome : HandlerOutcome) (x : Journaled H) : Journaled H :=
  match x.bus.stepLoop (scripted script outcome) x.journal with
  | some (bus, journal) => ⟨bus, journal.noteSnapshot x.bus bus⟩
  | none => x

/-- What can happen next. Filters may be gone through in a new order at any time. -/
inductive Step : Journaled H → Journaled H → Prop where
  | call (c : Call H) (x : Journaled H) : Step x (c.perform x)
  | deliver (script : List (Call H)) (outcome : HandlerOutcome) (x : Journaled H) :
      Step x (deliver script outcome x)
  | reorder (x : Journaled H) (entries : List (Filter × List (Subscriber H)))
      (h : entries.Perm x.bus.table.entries) :
      Step x { x with bus := { x.bus with table := { x.bus.table with entries } } }

inductive Reachable (capacity : Nat) : Journaled H → Prop where
  | start : Reachable capacity ⟨.new capacity, {}⟩
  | next {x y : Journaled H} : Reachable capacity x → Step x y → Reachable capacity y

/-- Calls of handlers that the event under way still needs. -/
def owed (b : Bus H) : List (Invocation H) :=
  match b.current with
  | some d => d.targets.map fun p => ⟨b.counters.dispatched, p.1, p.2, d.event⟩
  | none => []

/-- From `x` to `y` no event was dispatched and no handler called. Events may have been queued and
subscriptions made. -/
structure Frame (x y : Journaled H) : Prop where
  loopEnded : y.bus.loopEnded = x.bus.loopEnded
  dispatched : y.bus.counters.dispatched = x.bus.counters.dispatched
  current : y.bus.current.isNone = x.bus.current.isNone
  owed : owed y.bus = owed x.bus
  queued : ∃ es, y.journal.accepted = x.journal.accepted ++ es ∧
    y.bus.channel.items = x.bus.channel.items ++ es
  granted : ∃ gs, y.journal.granted = x.journal.granted ++ gs
  snapshots : y.journal.snapshots = x.journal.snapshots
  invoked : y.journal.invoked = x.journal.invoked

namespace Frame

theorem refl (x : Journaled H) : Frame x x :=
  ⟨rfl, rfl, rfl, rfl, ⟨[], by simp⟩, ⟨[], by simp⟩, rfl, rfl⟩

theorem trans {x y z : Journaled H} (h : Frame x y) (k : Frame y z) : Frame x z := by
  obtain ⟨es, hes, hitems⟩ := h.queued
  obtain ⟨fs, hfs, kitems⟩ := k.queued
  obtain ⟨gs, hgs⟩ := h.granted
  obtain ⟨ks, hks⟩ := k.granted
  exact ⟨k.loopEnded.trans h.loopEnded, k.dispatched.trans h.dispatched,
    k.current.trans h.current, k.owed.trans h.owed,
    ⟨es ++ fs, by rw [hfs, hes, List.append_assoc], by rw [kitems, hitems, List.append_assoc]⟩,
    ⟨gs ++ ks, by rw [hks, hgs, List.append_assoc]⟩, k.snapshots.trans h.snapshots,
    k.invoked.trans h.invoked⟩

/-- A change of the bus alone that leaves its queue and its loop as they are. -/
theorem of_bus {x : Journaled H} {b : Bus H} (hl : b.loopEnded = x.bus.loopEnded)
    (hd : b.counters.dispatched = x.bus.counters.dispatched) (hc : b.current = x.bus.current)
    (hi : b.channel.items = x.bus.channel.items) : Frame x { x with bus := b } :=
  ⟨hl, hd, by rw [hc], by simp only [Bus.owed, hc, hd], ⟨[], by simp [hi]⟩, ⟨[], by simp⟩, rfl, rfl⟩

end Frame

theorem Call.perform_frame (c : Call H) (x : Journaled H) : Frame x (c.perform x) := by
  cases c with
  | subscribe now f h =>
    simp only [perform]
    split
    · rename_i id b hs
      obtain ⟨-, -, rfl⟩ := subscribe_eq hs
      exact ⟨rfl, rfl, rfl, rfl, ⟨[], by simp [gaugeSubscriptions]⟩, ⟨_, rfl⟩, rfl, rfl⟩
    · exact .refl x
  | unsubscribe id =>
    simp only [perform]
    rw [unsubscribe_eq]
    dsimp only
    split_ifs
    · exact .of_bus rfl rfl rfl rfl
    · exact .refl x
  | acquire =>
    simp only [perform]
    split
    · rename_i b hb
      obtain ⟨c, -, hc, rfl⟩ := acquire_eq hb
      exact .of_bus rfl rfl rfl hc
    · exact .refl x
  | place e =>
    simp only [perform]
    split
    · rename_i b hb
      obtain ⟨c, hc, rfl⟩ := place_eq hb
      exact ⟨rfl, rfl, rfl, rfl, ⟨[e], rfl, hc⟩, ⟨[], by simp⟩, rfl, rfl⟩
    · exact .refl x
  | placeReserved e =>
    simp only [perform]
    split
    · rename_i b hb
      obtain ⟨c, hc, rfl⟩ := placeReserved_eq hb
      exact ⟨rfl, rfl, rfl, rfl, ⟨[e], rfl, hc⟩, ⟨[], by simp⟩, rfl, rfl⟩
    · exact .refl x
  | tryPublish e =>
    simp only [perform]
    obtain ⟨c, t, p, hc, hx⟩ | ⟨err, c, t, hc, hx⟩ := tryPublish_cases x.bus e
    · rw [hx]
      exact ⟨rfl, rfl, rfl, rfl, ⟨[e], rfl, hc⟩, ⟨[], by simp⟩, rfl, rfl⟩
    · rw [hx]
      exact .of_bus rfl rfl rfl hc
  | takeFrame =>
    simp only [perform, Bus.takeFrame]
    cases hd : x.bus.current with
    | none => exact .refl x
    | some d =>
      exact ⟨rfl, rfl, by simp [hd], by simp [owed, hd], ⟨[], by simp⟩, ⟨[], by simp⟩, rfl, rfl⟩
  | awaitRoom | recordPublished | release => exact .of_bus rfl rfl rfl rfl
  | beginShutdown =>
    simp only [perform, Bus.beginShutdown]
    split <;> exact .of_bus rfl rfl rfl rfl
  | stepShutdown =>
    simp only [perform, Bus.stepShutdown]
    split
    · split_ifs <;> exact .of_bus rfl rfl rfl rfl
    · exact .refl x
  | abandonShutdown =>
    simp only [perform, Bus.abandonShutdown]
    split <;> exact .of_bus rfl rfl rfl rfl

theorem performAll_frame (script : List (Call H)) (x : Journaled H) :
    Frame x (performAll script x) := by
  induction script generalizing x with
  | nil => exact .refl x
  | cons c rest ih => exact (c.perform_frame x).trans (ih _)

/-- Every row of the table is a subscription that was made, and identifiers are never used again. -/
structure Registered (b : Bus H) (granted : List (Grant H)) : Prop where
  table : b.table.WellFormed
  ids_nodup : (granted.map Grant.id).Nodup
  ids_below : ∀ g ∈ granted, g.id.number < b.nextId
  rows_granted : ∀ p ∈ b.table.rows, ⟨p.2.id, p.1, p.2.handler⟩ ∈ granted

namespace Registered

variable {b b' : Bus H} {granted : List (Grant H)}

theorem new (capacity : Nat) : Registered (Bus.new capacity : Bus H) [] :=
  ⟨SubscriptionTable.wellFormed_empty, List.nodup_nil, by simp,
    by simp [Bus.new, SubscriptionTable.rows, SubscriptionTable.ungroup]⟩

/-- Only the table, its next identifier and the list of subscriptions matter. -/
theorem congr (h : Registered b granted) (ht : b'.table.entries = b.table.entries)
    (ho : b'.table.owners = b.table.owners) (hn : b'.nextId = b.nextId) :
    Registered b' granted where
  table := by
    have hr : b'.table.rows = b.table.rows := by simp only [SubscriptionTable.rows, ht]
    refine ⟨?_, ?_, ?_, ?_⟩
    · simpa only [SubscriptionTable.ids, ho] using h.table.ids_nodup
    · simpa only [ht] using h.table.filters_nodup
    · simpa only [ho, hr] using h.table.owners_perm
    · simpa only [ht] using h.table.no_empty_entry
  ids_nodup := h.ids_nodup
  ids_below := hn ▸ h.ids_below
  rows_granted := by simpa only [SubscriptionTable.rows, ht] using h.rows_granted

/-- A table with fewer rows is fine too. -/
theorem of_rows_subset (h : Registered b granted) (ht : b'.table.WellFormed)
    (hr : b'.table.rows ⊆ b.table.rows) (hn : b'.nextId = b.nextId) : Registered b' granted :=
  ⟨ht, h.ids_nodup, hn ▸ h.ids_below, fun p hp => h.rows_granted p (hr hp)⟩

theorem subscribe (h : Registered b granted) {now : Time.Timestamp} {f : Filter} {handler : H}
    {id : SubscriptionId} (hs : b.subscribe now f handler = .ok (id, b')) :
    Registered b' (granted ++ [⟨id, f, handler⟩]) := by
  obtain ⟨-, rfl, rfl⟩ := subscribe_eq hs
  have hfresh : (⟨b.nextId⟩ : SubscriptionId) ∉ b.table.ids := by
    intro hm
    obtain ⟨p, hp, hid⟩ := h.table.mem_ids_iff.mp hm
    have hlt := h.ids_below _ (h.rows_granted p hp)
    simp [hid] at hlt
  refine ⟨h.table.insert hfresh f, ?_, ?_, ?_⟩
  · have hnew : (⟨b.nextId⟩ : SubscriptionId) ∉ granted.map Grant.id := by
      intro hm
      obtain ⟨g, hg, hid⟩ := List.mem_map.mp hm
      have hlt := h.ids_below g hg
      simp [hid] at hlt
    simpa using List.Nodup.concat hnew h.ids_nodup
  · intro g hg
    change g.id.number < b.nextId + 1
    rcases List.mem_append.mp hg with ho | hn
    · exact Nat.lt_succ_of_lt (h.ids_below g ho)
    · rw [List.mem_singleton.mp hn]
      exact Nat.lt_succ_self _
  · intro p hp
    have hp' := (SubscriptionTable.rows_insert b.table f ⟨⟨b.nextId⟩, handler, now⟩).mem_iff.mp hp
    rcases List.mem_append.mp hp' with ho | hn
    · exact List.mem_append_left _ (h.rows_granted p ho)
    · rw [List.mem_singleton.mp hn]
      simp

theorem unsubscribe (h : Registered b granted) (id : SubscriptionId) :
    Registered (b.unsubscribe id).2 granted := by
  rw [unsubscribe_eq]
  dsimp only
  split_ifs
  · exact h.of_rows_subset (h.table.remove id)
      (h.table.rows_remove id ▸ List.filter_subset_self _) rfl
  · exact h

theorem perform {x : Journaled H} (h : Registered x.bus x.journal.granted) (c : Call H) :
    Registered (c.perform x).bus (c.perform x).journal.granted := by
  cases c with
  | subscribe now f handler =>
    simp only [Call.perform]
    split
    · rename_i id b hs
      exact h.subscribe hs
    · exact h
  | unsubscribe id => exact h.unsubscribe id
  | acquire =>
    simp only [Call.perform]
    split
    · rename_i b hb
      obtain ⟨c, -, -, rfl⟩ := acquire_eq hb
      exact h.congr rfl rfl rfl
    · exact h
  | place e =>
    simp only [Call.perform]
    split
    · rename_i b hb
      obtain ⟨c, -, rfl⟩ := place_eq hb
      exact h.congr rfl rfl rfl
    · exact h
  | placeReserved e =>
    simp only [Call.perform]
    split
    · rename_i b hb
      obtain ⟨c, -, rfl⟩ := placeReserved_eq hb
      exact h.congr rfl rfl rfl
    · exact h
  | tryPublish e =>
    simp only [Call.perform]
    obtain ⟨c, t, p, -, hx⟩ | ⟨err, c, t, -, hx⟩ := tryPublish_cases x.bus e <;> rw [hx] <;>
      exact h.congr rfl rfl rfl
  | takeFrame =>
    simp only [Call.perform, Bus.takeFrame]
    cases x.bus.current with
    | none => exact h
    | some d => exact h.congr rfl rfl rfl
  | awaitRoom | recordPublished | release => exact h.congr rfl rfl rfl
  | beginShutdown =>
    simp only [Call.perform, Bus.beginShutdown]
    split <;> exact h.congr rfl rfl rfl
  | stepShutdown =>
    simp only [Call.perform, Bus.stepShutdown]
    split
    · split_ifs
      · exact h.of_rows_subset (.clear _) (List.nil_subset _) rfl
      · exact h
    · exact h
  | abandonShutdown =>
    simp only [Call.perform, Bus.abandonShutdown]
    split <;> exact h.congr rfl rfl rfl

theorem performAll {x : Journaled H} (h : Registered x.bus x.journal.granted)
    (script : List (Call H)) :
    Registered (performAll script x).bus (performAll script x).journal.granted := by
  induction script generalizing x with
  | nil => exact h
  | cons c rest ih => exact ih (h.perform c)

end Registered

end Fanout.Bus
