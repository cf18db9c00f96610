import Fanout.Bus.Basic
import Mathlib.Tactic.SplitIfs

/-! What each operation of the bus can do, so that later proofs need not look inside. -/
namespace Fanout

namespace Channel

variable {α : Type}

theorem isFinished_iff {c : Channel α} :
    c.isFinished = true ↔ c.items = [] ∧ c.accepting = false ∧ c.senders = 0 := by
  simp [isFinished, and_assoc]

theorem trySend_eq {c c' : Channel α} {a : α} (h : c.trySend a = some c') :
    c'.items = c.items ++ [a] ∧ c'.accepting = c.accepting ∧ c'.senders = c.senders := by
  unfold trySend at h
  split_ifs at h
  rw [← Option.some.inj h]
  exact ⟨rfl, rfl, rfl⟩

theorem sendReserved_eq {c c' : Channel α} {a : α} (h : c.sendReserved a = some c') :
    c'.items = c.items ++ [a] ∧ c'.accepting = c.accepting ∧ c'.senders = c.senders := by
  unfold sendReserved at h
  split_ifs at h
  rw [← Option.some.inj h]
  exact ⟨rfl, rfl, rfl⟩

theorem receive_eq {c c' : Channel α} {a : α} (h : c.receive = some (a, c')) :
    c.items = a :: c'.items := by
  unfold receive at h
  split at h
  · cases h
  · rename_i b rest hitems
    obtain ⟨rfl, rfl⟩ := Prod.mk.inj (Option.some.inj h)
    split_ifs <;> exact hitems

/-- The consumer has no say in who may send. -/
theorem receive_senders {c c' : Channel α} {a : α} (h : c.receive = some (a, c')) :
    c'.accepting = c.accepting ∧ c'.senders = c.senders := by
  unfold receive at h
  split at h
  · cases h
  · obtain ⟨rfl, rfl⟩ := Prod.mk.inj (Option.some.inj h)
    split_ifs <;> exact ⟨rfl, rfl⟩

end Channel

namespace Bus

variable {H : Type}

theorem subscribe_eq {b b' : Bus H} {now : Time.Timestamp} {f : Filter} {h : H}
    {id : SubscriptionId} (hs : b.subscribe now f h = .ok (id, b')) :
    b.table.closed = false ∧ id = ⟨b.nextId⟩ ∧ b' = gaugeSubscriptions
      { b with table := b.table.insert f ⟨id, h, now⟩, nextId := b.nextId + 1 } := by
  unfold subscribe at hs
  split at hs
  · cases hs
  · split_ifs at hs with hc
    obtain ⟨rfl, rfl⟩ := Prod.mk.inj (Except.ok.inj hs)
    exact ⟨by simpa using hc, rfl, rfl⟩

theorem unsubscribe_eq (b : Bus H) (id : SubscriptionId) :
    b.unsubscribe id = ((b.table.remove id).1,
      if (b.table.remove id).1 then gaugeSubscriptions { b with table := (b.table.remove id).2 }
      else b) := by
  unfold unsubscribe
  split <;> rename_i h <;> simp [h]

theorem acquire_eq {b b' : Bus H} (h : b.acquire = .ok b') :
    ∃ c, b.channel.acquire = some c ∧ c.items = b.channel.items ∧ b' = { b with channel := c } := by
  unfold acquire at h
  split at h
  · rename_i c hc
    refine ⟨c, hc, ?_, (Except.ok.inj h).symm⟩
    unfold Channel.acquire at hc
    split_ifs at hc
    rw [← Option.some.inj hc]
  · cases h

theorem place_eq {b b' : Bus H} {e : Event} (h : b.place e = some b') :
    ∃ c, c.items = b.channel.items ++ [e] ∧ b' = { b with channel := c } := by
  obtain ⟨c, hc, rfl⟩ := Option.map_eq_some_iff.mp h
  exact ⟨c, (Channel.trySend_eq hc).1, rfl⟩

theorem placeReserved_eq {b b' : Bus H} {e : Event} (h : b.placeReserved e = some b') :
    ∃ c, c.items = b.channel.items ++ [e] ∧ b' = { b with channel := c } := by
  obtain ⟨c, hc, rfl⟩ := Option.map_eq_some_iff.mp h
  exact ⟨c, (Channel.sendReserved_eq hc).1, rfl⟩

/-- A publisher that does not wait either puts its event last or leaves the queue as it is. -/
theorem tryPublish_cases (b : Bus H) (e : Event) :
    (∃ c t p, c.items = b.channel.items ++ [e] ∧ b.tryPublish e = (.ok (), { b with
      channel := c, telemetry := t, counters := { b.counters with published := p } })) ∨
    ∃ x c t, c.items = b.channel.items ∧
      b.tryPublish e = (.error x, { b with channel := c, telemetry := t }) := by
  cases ha : b.acquire with
  | error x =>
    exact .inr ⟨x, b.channel, b.telemetry, rfl, by simp [tryPublish, ha]⟩
  | ok b₁ =>
    obtain ⟨c, -, hitems, rfl⟩ := acquire_eq ha
    cases hp : place ({ b with channel := c }) e with
    | none =>
      refine .inr ⟨.queueOverflow, c.release, (b.recordOverflow e).telemetry, hitems, ?_⟩
      simp only [tryPublish, ha, hp]
      rfl
    | some b₂ =>
      obtain ⟨c', hc', rfl⟩ := place_eq hp
      refine .inl ⟨c'.release, b.recordPublished.telemetry, b.counters.published + 1,
        hc'.trans (by rw [hitems]), ?_⟩
      simp only [tryPublish, ha, hp]
      rfl

/-- What the bus is like once the loop has taken an event off the queue. -/
def dispatching (b : Bus H) (e : Event) (c : Channel Event) : Bus H :=
  { b with
    channel := c
    counters := { b.counters with
      dispatched := b.counters.dispatched + 1
      matcherEvaluations := b.counters.matcherEvaluations + b.table.distinctFilters }
    current := some { event := e, targets := b.table.targets e } }

theorem beginDispatch_eq {b b' : Bus H} (h : b.beginDispatch = some b') :
    b.current = none ∧ ∃ e c, b.channel.receive = some (e, c) ∧ b' = b.dispatching e c := by
  unfold beginDispatch at h
  split at h
  · rename_i e c hc hr
    exact ⟨hc, e, c, hr, (Option.some.inj h).symm⟩
  · cases h

theorem stepLoop_running {σ : Type} {react : React H σ} {b : Bus H} {s : σ} {x : Bus H × σ}
    (h : b.stepLoop react s = some x) : b.loopEnded = false := by
  cases hl : b.loopEnded with
  | false => rfl
  | true => simp [stepLoop, hl] at h

/-- The loop finishes an event, calls a handler, takes an event or ends. -/
theorem stepLoop_cases {σ : Type} {react : React H σ} {b b' : Bus H} {s s' : σ}
    (h : b.stepLoop react s = some (b', s')) :
    (∃ d, b.current = some d ∧ d.targets = [] ∧ b' = { b with current := none } ∧ s' = s) ∨
    (∃ d id handler rest o b₁, b.current = some d ∧ d.targets = (id, handler) :: rest ∧
      react id handler { b with current := some { d with targets := rest } } s = (o, b₁, s') ∧
      b' = b₁.recordOutcome id d.event.type o) ∨
    (∃ e c, b.current = none ∧ b.channel.receive = some (e, c) ∧ b' = b.dispatching e c ∧ s' = s) ∨
    (b.current = none ∧ b.channel.isFinished = true ∧ b' = { b with loopEnded := true } ∧
      s' = s) := by
  unfold stepLoop at h
  rw [if_neg (by simp [stepLoop_running h])] at h
  cases hd : b.current with
  | some d =>
    cases ht : d.targets with
    | nil =>
      simp only [hd, ht] at h
      obtain ⟨rfl, rfl⟩ := Prod.mk.inj (Option.some.inj h)
      exact .inl ⟨d, rfl, ht, rfl, rfl⟩
    | cons p rest =>
      simp only [hd, ht] at h
      obtain ⟨rfl, rfl⟩ := Prod.mk.inj (Option.some.inj h)
      exact .inr (.inl ⟨d, p.1, p.2, rest, _, _, rfl, ht, rfl, rfl⟩)
  | none =>
    simp only [hd] at h
    cases hb : b.beginDispatch with
    | some b₁ =>
      simp only [hb] at h
      obtain ⟨rfl, rfl⟩ := Prod.mk.inj (Option.some.inj h)
      obtain ⟨-, e, c, hr, rfl⟩ := beginDispatch_eq hb
      exact .inr (.inr (.inl ⟨e, c, rfl, hr, rfl, rfl⟩))
    | none =>
      simp only [hb] at h
      split_ifs at h with hf
      obtain ⟨rfl, rfl⟩ := Prod.mk.inj (Option.some.inj h)
      exact .inr (.inr (.inr ⟨rfl, hf, rfl, rfl⟩))

/-- How a handler ended shows in counters and telemetry only. -/
theorem recordOutcome_eq (b : Bus H) (id : SubscriptionId) (type : String) (o : HandlerOutcome) :
    ∃ d f t, b.recordOutcome id type o = { b with
      counters := { b.counters with deliveries := d, handlerFailures := f }, telemetry := t } := by
  cases o <;> exact ⟨_, _, _, rfl⟩

theorem abandonShutdown_eq {b : Bus H} {awaitsLoop : Bool} (h : b.draining = .active awaitsLoop) :
    b.abandonShutdown = { b with draining := .idle } := by
  simp [abandonShutdown, h]

end Bus

end Fanout
