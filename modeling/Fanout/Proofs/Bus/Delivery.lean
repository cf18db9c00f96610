import Fanout.Proofs.Bus.Journal

/-!
Who gets which events. Over any run a handler is called with exactly the events that its own
subscription asks for, in the order in which they were queued.
-/
namespace Fanout.Bus

variable {H : Type}

namespace Journal

/-- Each event taken off the queue, with the table its dispatch found and its number. -/
def turns (j : Journal H) : List ((Event × SubscriptionTable H) × Nat) :=
  (j.accepted.zip j.snapshots).zipIdx 1

def planned (j : Journal H) : List (Invocation H) :=
  j.turns.flatMap fun p => (p.1.2.targets p.1.1).map fun q => ⟨p.2, q.1, q.2, p.1.1⟩

/-- Whether a subscription was in the table that each dispatch found. -/
def present (j : Journal H) (id : SubscriptionId) : List Bool :=
  j.snapshots.map fun t => t.ids.contains id

/-- The calls that a subscription asks for: one for each event that its filter accepts and that was
dispatched while it was in the table. -/
def due (j : Journal H) (g : Grant H) : List (Invocation H) :=
  ((j.accepted.zip (j.present g.id)).zipIdx 1).filterMap fun p =>
    if p.1.2 && g.filter.accepts p.1.1 then some ⟨p.2, g.id, g.handler, p.1.1⟩ else none

end Journal

/-- The journal tells what the bus did: events leave the queue in order, and the calls made with
those still owed are those planned. -/
structure Faithful (x : Journaled H) : Prop where
  registered : Registered x.bus x.journal.granted
  queue : ∃ taken, x.journal.accepted = taken ++ x.bus.channel.items ∧
    taken.length = x.journal.snapshots.length
  turn : x.bus.counters.dispatched = x.journal.snapshots.length
  running : x.bus.loopEnded = true → x.bus.current = none
  plan : x.journal.invoked ++ owed x.bus = x.journal.planned
  snapshots : ∀ t ∈ x.journal.snapshots, t.WellFormed ∧
    ∀ p ∈ t.rows, ⟨p.2.id, p.1, p.2.handler⟩ ∈ x.journal.granted

/-- What is queued behind the events taken plays no part yet. -/
private theorem zip_taken {α β : Type} {taken : List α} {ss : List β}
    (hlen : taken.length = ss.length) (rest : List α) : (taken ++ rest).zip ss = taken.zip ss := by
  have happend : (taken ++ rest).zip (ss ++ []) = taken.zip ss ++ rest.zip [] :=
    List.zip_append hlen
  simpa using happend

theorem Journal.turns_frame {j j' : Journal H} {taken rest es : List Event}
    (hlen : taken.length = j.snapshots.length) (ha : j.accepted = taken ++ rest)
    (ha' : j'.accepted = j.accepted ++ es) (hs : j'.snapshots = j.snapshots) :
    j'.turns = j.turns := by
  unfold turns
  rw [hs, ha', ha, List.append_assoc, zip_taken hlen, zip_taken hlen]

theorem Journal.turns_dispatch {j : Journal H} {taken rest : List Event} {e : Event}
    (hlen : taken.length = j.snapshots.length) (ha : j.accepted = taken ++ e :: rest)
    (t : SubscriptionTable H) :
    Journal.turns { j with snapshots := j.snapshots ++ [t] } =
      j.turns ++ [((e, t), j.snapshots.length + 1)] := by
  unfold turns
  rw [ha, List.zip_append hlen, List.zipIdx_append, zip_taken hlen]
  simp [hlen, Nat.add_comm]

namespace Faithful

variable {x y : Journaled H}

theorem start (capacity : Nat) : Faithful (⟨.new capacity, {}⟩ : Journaled H) :=
  ⟨.new capacity, ⟨[], rfl, rfl⟩, rfl, by simp [Bus.new], rfl, by simp⟩

/-- Whatever dispatches nothing and keeps the table in order keeps the journal faithful. -/
theorem of_frame (h : Faithful x) (hf : Frame x y) (hr : Registered y.bus y.journal.granted) :
    Faithful y := by
  obtain ⟨taken, htaken, hlen⟩ := h.queue
  obtain ⟨es, hes, hitems⟩ := hf.queued
  obtain ⟨gs, hgs⟩ := hf.granted
  have hturns : y.journal.turns = x.journal.turns :=
    Journal.turns_frame hlen htaken hes hf.snapshots
  refine ⟨hr, ⟨taken, ?_, by rw [hf.snapshots, hlen]⟩, ?_, ?_, ?_, ?_⟩
  · rw [hes, htaken, hitems, List.append_assoc]
  · rw [hf.dispatched, hf.snapshots, h.turn]
  · intro hl
    have hx := h.running (hf.loopEnded ▸ hl)
    exact Option.isNone_iff_eq_none.mp (hf.current.trans (by simp [hx]))
  · rw [hf.invoked, hf.owed, h.plan, Journal.planned, Journal.planned, hturns]
  · intro t ht
    obtain ⟨hw, hp⟩ := h.snapshots t (hf.snapshots ▸ ht)
    exact ⟨hw, fun p hm => hgs ▸ List.mem_append_left _ (hp p hm)⟩

theorem perform (h : Faithful x) (c : Call H) : Faithful (c.perform x) :=
  h.of_frame (c.perform_frame x) (h.registered.perform c)

theorem performAll (h : Faithful x) (script : List (Call H)) : Faithful (performAll script x) :=
  h.of_frame (performAll_frame script x) (h.registered.performAll script)

/-- The next handler in line is called. -/
theorem noteInvocation (h : Faithful x) {d : Dispatch H} {id : SubscriptionId} {handler : H}
    {rest : List (SubscriptionId × H)} (hd : x.bus.current = some d)
    (ht : d.targets = (id, handler) :: rest) :
    let b := { x.bus with current := some { d with targets := rest } }
    Faithful ⟨b, x.journal.noteInvocation b id handler⟩ := by
  obtain ⟨taken, htaken, hlen⟩ := h.queue
  have hrun : x.bus.loopEnded ≠ true := fun hl => by simp [h.running hl] at hd
  refine ⟨h.registered.congr rfl rfl rfl, ⟨taken, htaken, hlen⟩, h.turn, fun hl => absurd hl hrun,
    ?_, h.snapshots⟩
  have hplan := h.plan
  simp only [owed, hd, ht, List.map_cons] at hplan
  simpa [Journal.noteInvocation, owed, Journal.planned, Journal.turns] using hplan

/-- The loop takes an event off the queue and notes its targets. -/
theorem dispatching (h : Faithful x) {e : Event} {c : Channel Event}
    (hl : x.bus.loopEnded = false) (hd : x.bus.current = none)
    (hc : x.bus.channel.receive = some (e, c)) :
    Faithful ⟨x.bus.dispatching e c, { x.journal with
      snapshots := x.journal.snapshots ++ [x.bus.table] }⟩ := by
  obtain ⟨taken, htaken, hlen⟩ := h.queue
  rw [Channel.receive_eq hc] at htaken
  refine ⟨h.registered.congr rfl rfl rfl, ⟨taken ++ [e], ?_, ?_⟩, ?_, ?_, ?_, ?_⟩
  · simp [htaken, Bus.dispatching]
  · simp [hlen]
  · simp [Bus.dispatching, h.turn]
  · simp [Bus.dispatching, hl]
  · have hplan := h.plan
    simp only [owed, hd, List.append_nil] at hplan
    simp only [Journal.planned, Journal.turns_dispatch hlen htaken, List.flatMap_append]
    rw [← Journal.planned, ← hplan]
    simp [owed, Bus.dispatching, h.turn]
  · intro t ht
    rcases List.mem_append.mp ht with ho | hn
    · exact h.snapshots t ho
    · rw [List.mem_singleton.mp hn]
      exact ⟨h.registered.table, h.registered.rows_granted⟩

/-- The last handler has returned. -/
theorem finishing (h : Faithful x) {d : Dispatch H} (hd : x.bus.current = some d)
    (ht : d.targets = []) : Faithful { x with bus := { x.bus with current := none } } := by
  obtain ⟨taken, htaken, hlen⟩ := h.queue
  have hplan := h.plan
  simp only [owed, hd, ht, List.map_nil] at hplan
  exact ⟨h.registered.congr rfl rfl rfl, ⟨taken, htaken, hlen⟩, h.turn, fun _ => rfl, hplan,
    h.snapshots⟩

/-- The loop ends between events. -/
theorem ending (h : Faithful x) (hd : x.bus.current = none) :
    Faithful { x with bus := { x.bus with loopEnded := true } } := by
  obtain ⟨taken, htaken, hlen⟩ := h.queue
  exact ⟨h.registered.congr rfl rfl rfl, ⟨taken, htaken, hlen⟩, h.turn, fun _ => hd, h.plan,
    h.snapshots⟩

theorem deliver (h : Faithful x) (script : List (Call H)) (outcome : HandlerOutcome) :
    Faithful (deliver script outcome x) := by
  unfold Bus.deliver
  split
  · rename_i b j hs
    obtain ⟨d, hd, ht, rfl, rfl⟩ | ⟨d, id, handler, rest, o, b₁, hd, ht, hreact, rfl⟩ |
      ⟨e, c, hd, hc, rfl, rfl⟩ | ⟨hd, -, rfl, rfl⟩ := stepLoop_cases hs
    · simpa [Journal.noteSnapshot, hd] using h.finishing hd ht
    · have hcalled := (h.noteInvocation hd ht).performAll script
      obtain ⟨rfl, rfl, rfl⟩ : outcome = o ∧ _ = b₁ ∧ _ = j := by
        simpa only [scripted, Prod.mk.injEq] using hreact
      obtain ⟨del, fail, tel, hout⟩ := recordOutcome_eq
        (Bus.performAll script ⟨{ x.bus with current := some { d with targets := rest } },
          x.journal.noteInvocation { x.bus with current := some { d with targets := rest } }
            id handler⟩).bus id d.event.type outcome
      rw [hout]
      simp only [Journal.noteSnapshot, hd, Option.isNone_some, Bool.false_and, if_false,
        Bool.false_eq_true]
      exact hcalled.of_frame (.of_bus rfl rfl rfl rfl) (hcalled.registered.congr rfl rfl rfl)
    · simpa [Journal.noteSnapshot, hd, Bus.dispatching] using
        h.dispatching (stepLoop_running hs) hd hc
    · simpa [Journal.noteSnapshot, hd] using h.ending hd
  · exact h

theorem step (h : Faithful x) (hs : Step x y) : Faithful y := by
  cases hs with
  | call c => exact h.perform c
  | deliver script outcome => exact h.deliver script outcome
  | reorder _ entries hp =>
    refine h.of_frame (.of_bus rfl rfl rfl rfl) ?_
    exact h.registered.of_rows_subset (h.registered.table.reorder hp)
      ((hp.flatMap_right _).subset) rfl

theorem of_reachable {capacity : Nat} (h : Reachable capacity x) : Faithful x := by
  induction h with
  | start => exact .start capacity
  | next _ hs ih => exact ih.step hs

end Faithful

theorem Journal.due_eq (j : Journal H) (g : Grant H) :
    j.due g = j.turns.filterMap fun p =>
      if g.id ∈ p.1.2.ids ∧ g.filter.accepts p.1.1 then some ⟨p.2, g.id, g.handler, p.1.1⟩
      else none := by
  unfold due present turns
  rw [List.zip_map_right, List.zipIdx_map, List.filterMap_map]
  congr 1
  funext p
  simp [Prod.map]

end Fanout.Bus
