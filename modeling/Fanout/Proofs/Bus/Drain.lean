import Fanout.Proofs.Bus.Callers

/-!
An invariant of a bus in the hands of many callers. It ties what each stage of a drain has done to
what publishers hold, to the subscriptions that stand and to the events dispatched.
-/
namespace Fanout.Bus

variable {H : Type}

/-- What has been done when a shutdown has come so far. -/
structure Phased (b : Bus H) (orphaned : Bool) : Prop where
  closed : b.draining ≠ .idle → b.table.closed = true
  stopped : b.draining ≠ .idle → b.draining ≠ .closed → b.channel.accepting = false
  taken : b.draining ≠ .idle → b.draining ≠ .closed → b.draining ≠ .stopped →
    b.loopJoinable = false
  awaited : b.loopJoinable = false →
    b.draining = .active true ∨ b.loopEnded = true ∨ orphaned = true
  ended : b.loopEnded = true → b.channel.isFinished = true
  cleared : b.draining = .done → b.table.entries = [] ∧ b.table.owners = []

namespace Phased

variable {b : Bus H} {orphaned : Bool}

theorem new (capacity : Nat) : Phased (Bus.new capacity : Bus H) false := by
  constructor <;> simp [Bus.new]

theorem closeTable (h : Phased b orphaned) (hd : b.draining = .idle) :
    Phased b.closeTable orphaned where
  closed := fun _ => rfl
  stopped := fun _ hc => absurd rfl hc
  taken := fun _ hc => absurd rfl hc
  awaited := fun hj => .inr ((h.awaited hj).resolve_left (by simp [hd]))
  ended := h.ended
  cleared := fun hd' => nomatch hd'

theorem stopPublishing (h : Phased b orphaned) (hd : b.draining = .closed) :
    Phased b.stopPublishing orphaned where
  closed := fun _ => h.closed (by simp [hd])
  stopped := fun _ _ => rfl
  taken := fun _ _ hs => absurd rfl hs
  awaited := fun hj => .inr ((h.awaited hj).resolve_left (by simp [hd]))
  ended := fun hl => by
    obtain ⟨hi, -, hs⟩ := Channel.isFinished_iff.mp (h.ended hl)
    exact Channel.isFinished_iff.mpr ⟨hi, rfl, hs⟩
  cleared := fun hd' => nomatch hd'

/-- If the loop has been taken before, it has ended or nobody waits for it. -/
theorem takeLoop (h : Phased b orphaned) (hd : b.draining = .stopped) :
    Phased b.takeLoop orphaned where
  closed := fun _ => h.closed (by simp [hd])
  stopped := fun _ _ => h.stopped (by simp [hd]) (by simp [hd])
  taken := fun _ _ _ => rfl
  awaited := fun _ => by
    cases hj : b.loopJoinable with
    | true => exact .inl (congrArg Draining.active hj)
    | false => exact .inr ((h.awaited hj).resolve_left (by simp [hd]))
  ended := h.ended
  cleared := fun hd' => nomatch hd'

/-- A drain that comes to its end has seen the loop end, unless one before was given up. -/
theorem ended_or_orphaned (h : Phased b orphaned) {awaits : Bool}
    (hd : b.draining = .active awaits) (hl : b.loopEnded = true ∨ awaits = false) :
    b.loopEnded = true ∨ orphaned = true := by
  have hj := h.taken (by simp [hd]) (by simp [hd]) (by simp [hd])
  rcases h.awaited hj with ha | hend
  · rw [hd] at ha
    exact .inl (hl.resolve_right (by simp [Draining.active.inj ha]))
  · exact hend

theorem endDrain (h : Phased b orphaned) {awaits : Bool} (hd : b.draining = .active awaits)
    (hl : b.loopEnded = true ∨ awaits = false) : Phased b.endDrain orphaned where
  closed := fun _ => h.closed (by simp [hd])
  stopped := fun _ _ => h.stopped (by simp [hd]) (by simp [hd])
  taken := fun _ _ _ => h.taken (by simp [hd]) (by simp [hd]) (by simp [hd])
  awaited := fun _ => .inr (h.ended_or_orphaned hd hl)
  ended := h.ended
  cleared := fun _ => ⟨rfl, rfl⟩

theorem abandonShutdown (h : Phased b orphaned) {awaits : Bool}
    (hd : b.draining = .active awaits) : Phased b.abandonShutdown true := by
  rw [abandonShutdown_eq hd]
  exact ⟨fun hi => absurd rfl hi, fun hi => absurd rfl hi, fun hi => absurd rfl hi,
    fun _ => .inr (.inr rfl), h.ended, fun hd' => nomatch hd'⟩

/-- When the table is cleared, the loop has ended or somebody gave up waiting for it. -/
theorem done (h : Phased b orphaned) (hd : b.draining = .done) :
    b.loopEnded = true ∨ orphaned = true := by
  have hj := h.taken (by simp [hd]) (by simp [hd]) (by simp [hd])
  exact (h.awaited hj).resolve_left (by simp [hd])

end Phased

namespace Closer

/-- A call to shut down that goes on leaves the bus alone or takes the next step of the drain. -/
theorem advance_cases (b : Bus H) (c : Closer) :
    ((c.advance b).2 = b ∧ ((c.advance b).1 = .returned → c = .returned ∨ b.draining = .done)) ∨
    (c.advance b).1 = .draining ∧
      (b.draining = .idle ∧ (c.advance b).2 = b.closeTable ∨
      b.draining = .closed ∧ (c.advance b).2 = b.stopPublishing ∨
      b.draining = .stopped ∧ (c.advance b).2 = b.takeLoop ∨
      ∃ awaits, b.draining = .active awaits ∧ (b.loopEnded = true ∨ awaits = false) ∧
        (c.advance b).2 = b.endDrain) := by
  cases c with
  | waiting =>
    cases hd : b.draining with
    | idle => exact .inr (by simp [advance, hd])
    | done => exact .inl (by simp [advance, hd])
    | closed | stopped | active => exact .inl (by simp [advance, hd])
  | draining =>
    cases hd : b.draining with
    | idle => exact .inl (by simp [advance, stepDrain, stepShutdown, hd])
    | done => exact .inl (by simp [advance, hd])
    | closed | stopped => exact .inr (by simp [advance, stepDrain, hd])
    | active awaits =>
      by_cases hl : b.loopEnded = true ∨ awaits = false
      · refine .inr ⟨by simp [advance, hd], .inr (.inr (.inr ⟨awaits, rfl, hl, ?_⟩))⟩
        simp [advance, stepDrain, stepShutdown, hd, hl]
      · exact .inl (by simp [advance, stepDrain, stepShutdown, hd, hl])
  | returned | abandoned => exact .inl (by simp [advance])

theorem advance_done {b : Bus H} (h : b.draining = .done) (c : Closer) : (c.advance b).2 = b := by
  cases c <;> simp [advance, h]

theorem abandon_done {b : Bus H} (h : b.draining = .done) (c : Closer) : (c.abandon b).2 = b := by
  cases c <;> simp [abandon, h]

/-- A call to shut down that is given up was waiting: for another call, or for the loop. -/
theorem abandon_cases (b : Bus H) (c : Closer) :
    ((c.abandon b).2 = b ∧ (c = .draining → (c.abandon b).1 = .draining) ∧
      ((c.abandon b).1 = .returned → c = .returned)) ∨
    c = .draining ∧ (c.abandon b).1 = .abandoned ∧ b.draining = .active true ∧
      (c.abandon b).2 = b.abandonShutdown := by
  cases c with
  | draining =>
    by_cases hd : b.draining = .active true
    · exact .inr (by simp [abandon, hd])
    · exact .inl (by simp [abandon, hd])
  | waiting | returned | abandoned => exact .inl (by simp [abandon])

end Closer

/-- The ledger tells what the callers have done to the bus. Until the table is cleared it holds what
stands, and nothing is dispatched later unless a drain was given up. -/
structure Orderly (w : World H) : Prop where
  faithful : Faithful w.journaled
  phased : Phased w.bus w.ledger.orphaned
  senders : w.bus.channel.senders = w.ledger.publishers.countP Publisher.hasSender
  accepted : (w.ledger.publishers.filterMap Publisher.accepted?).Perm w.ledger.accepted
  returned : .returned ∈ w.ledger.closers → w.bus.draining = .done
  abandoned : w.ledger.orphaned = true → .abandoned ∈ w.ledger.closers
  standing : w.bus.draining ≠ .done → (grantsIn w.bus.table).Perm w.ledger.standing
  stood : w.ledger.orphaned = true ∨
    List.Forall₂ (fun t gs => (grantsIn t).Perm gs) w.ledger.snapshots w.ledger.stood

private theorem mem_set_of_mem {α : Type} {l : List α} {n : Nat} {a b x : α}
    (hn : l[n]? = some a) (hx : x ∈ l) (hb : a = x → b = x) : x ∈ l.set n b := by
  obtain ⟨i, hi⟩ := List.mem_iff_getElem?.mp hx
  by_cases hni : n = i
  · subst hni
    obtain ⟨hlt, -⟩ := List.getElem?_eq_some_iff.mp hn
    rw [hb (Option.some.inj (hn.symm.trans hi))]
    exact List.mem_set hlt x
  · exact List.mem_iff_getElem?.mpr ⟨i, by rw [List.getElem?_set_ne hni, hi]⟩

private theorem filterMap_cons_toList {α β : Type} (f : α → Option β) (a : α) (l : List α) :
    (a :: l).filterMap f = (f a).toList ++ l.filterMap f := by
  cases h : f a <;> simp [h]

namespace Orderly

variable {w : World H}

theorem start (capacity : Nat) : Orderly (⟨.new capacity, {}⟩ : World H) where
  faithful := .start capacity
  phased := .new capacity
  senders := rfl
  accepted := .refl _
  returned := by simp
  abandoned := by simp
  standing := fun _ => .refl _
  stood := .inr .nil

/-- Who still has a sender keeps the loop from ending. -/
theorem senders_pos (h : Orderly w) {p : Publisher} (hp : p ∈ w.ledger.publishers)
    (hs : p.hasSender = true) : 0 < w.bus.channel.senders := by
  rw [h.senders]
  exact List.countP_pos_iff.mpr ⟨p, hp, hs⟩

theorem not_ended (h : Orderly w) (hs : 0 < w.bus.channel.senders) : w.bus.loopEnded = false := by
  cases hl : w.bus.loopEnded with
  | false => rfl
  | true =>
    obtain ⟨-, -, hnone⟩ := Channel.isFinished_iff.mp (h.phased.ended hl)
    omega

theorem subscribe (h : Orderly w) (now : Time.Timestamp) (f : Filter) (handler : H) :
    Orderly ((Move.subscribe now f handler).perform w) := by
  have hf := h.faithful.perform (.subscribe now f handler)
  simp only [Move.perform]
  simp only [Call.perform, World.journaled] at hf
  split
  · rename_i id b hs
    simp only [hs] at hf
    obtain ⟨hc, rfl, rfl⟩ := subscribe_eq hs
    have hidle : w.bus.draining = .idle := by
      by_contra hd
      rw [h.phased.closed hd] at hc
      cases hc
    refine ⟨hf, ?_, h.senders, h.accepted, h.returned, h.abandoned, fun hd => ?_, h.stood⟩
    · refine ⟨fun hd => absurd hidle hd, h.phased.stopped, h.phased.taken, h.phased.awaited,
        h.phased.ended, fun hd => ?_⟩
      have hdone : w.bus.draining = .done := hd
      rw [hidle] at hdone
      cases hdone
    · have hrows := w.bus.table.rows_insert f ⟨⟨w.bus.nextId⟩, handler, now⟩
      refine (hrows.map _).trans ?_
      rw [List.map_append]
      exact (h.standing hd).append_right _
  · exact h

theorem unsubscribe (h : Orderly w) (id : SubscriptionId) :
    Orderly ((Move.unsubscribe id).perform w) := by
  have hf := h.faithful.perform (.unsubscribe id)
  have hb : ∃ t, (w.bus.unsubscribe id).2 =
      { w.bus with table := (w.bus.table.remove id).2, telemetry := t } := by
    unfold Bus.unsubscribe SubscriptionTable.remove
    cases Keyed.get? id w.bus.table.owners with
    | none => exact ⟨w.bus.telemetry, rfl⟩
    | some f => exact ⟨_, rfl⟩
  obtain ⟨t, hb⟩ := hb
  simp only [Call.perform, World.journaled, hb] at hf
  simp only [Move.perform, hb]
  refine ⟨hf, ?_, h.senders, h.accepted, h.returned, h.abandoned, fun hd => ?_, h.stood⟩
  · refine ⟨fun hd => ?_, h.phased.stopped, h.phased.taken, h.phased.awaited, h.phased.ended,
      fun hd => ?_⟩
    · rw [remove_closed]
      exact h.phased.closed hd
    · obtain ⟨he, ho⟩ := h.phased.cleared hd
      have hnone : Keyed.get? id w.bus.table.owners = none := by simp [ho, Keyed.get?]
      simp only [SubscriptionTable.remove, hnone]
      exact ⟨he, ho⟩
  · have hrows := (h.standing hd).filter fun g => decide (g.id ≠ id)
    rw [grantsIn, List.filter_map] at hrows
    have hremove : (w.bus.table.remove id).2.rows = _ :=
      h.faithful.registered.table.rows_remove id
    change ((w.bus.table.remove id).2.rows.map _).Perm _
    rw [hremove]
    exact hrows

theorem publish (h : Orderly w) (e : Event) (waits : Bool) :
    Orderly ((Move.publish e waits).perform w) := by
  obtain ⟨hb, ha⟩ := Publisher.enter_eq w.bus e waits
  change Orderly ⟨(Publisher.enter w.bus e waits).2, { w.ledger with
    publishers := w.ledger.publishers ++ [(Publisher.enter w.bus e waits).1] }⟩
  rw [hb]
  refine ⟨h.faithful.of_frame (.of_bus rfl rfl rfl rfl)
    (h.faithful.registered.congr rfl rfl rfl), ?_, ?_, ?_, h.returned, h.abandoned, h.standing,
    h.stood⟩
  · refine ⟨h.phased.closed, h.phased.stopped, h.phased.taken, h.phased.awaited, fun hl => ?_,
      h.phased.cleared⟩
    have hfinished := h.phased.ended hl
    have hclosed := Publisher.enter_closed (Channel.isFinished_iff.mp hfinished).2.1 e waits
    simpa [hclosed, Publisher.hasSender] using hfinished
  · cases hs : (Publisher.enter w.bus e waits).1.hasSender <;> simp [h.senders, hs]
  · simpa [List.filterMap_cons, ha] using h.accepted

theorem advance (h : Orderly w) (n : Nat) : Orderly ((Move.advance n).perform w) := by
  simp only [Move.perform]
  split
  · rename_i p hn
    change Orderly ⟨(p.advance w.bus).2, { w.ledger with
      accepted := w.ledger.accepted ++ p.newlyAccepted (p.advance w.bus).1
      publishers := w.ledger.publishers.set n (p.advance w.bus).1 }⟩
    obtain ⟨hlt, rfl⟩ := List.getElem?_eq_some_iff.mp hn
    have hpos := h.senders_pos (List.mem_of_getElem? hn)
    generalize hp : w.ledger.publishers[n] = p at *
    obtain ⟨c, k, t, hb, hitems, haccepting, hsenders, haccepted⟩ := Publisher.advance_eq hpos
    have hbefore : w.ledger.publishers.Perm (p :: w.ledger.publishers.eraseIdx n) :=
      hp ▸ (List.getElem_cons_eraseIdx_perm hlt).symm
    have hafter := List.set_perm_cons_eraseIdx hlt (p.advance w.bus).1
    rw [hb]
    refine ⟨h.faithful.of_frame
      ⟨rfl, rfl, rfl, rfl, ⟨_, rfl, hitems⟩, ⟨[], by simp [World.journaled]⟩, rfl, rfl⟩
      (h.faithful.registered.congr rfl rfl rfl), ?_, ?_, ?_, h.returned, h.abandoned, h.standing,
      h.stood⟩
    · refine ⟨h.phased.closed, fun hi hc => haccepting.trans (h.phased.stopped hi hc),
        h.phased.taken, h.phased.awaited, fun hl => ?_, h.phased.cleared⟩
      -- Who has a sender keeps the loop from ending, and who has none changes nothing.
      cases hs : p.hasSender with
      | true => exact absurd (h.not_ended (hpos hs)) (by simpa using hl)
      | false =>
        have hc : c = w.bus.channel := by
          have hsame := congrArg Bus.channel hb
          rw [Publisher.advance_of_hasSender hs] at hsame
          exact hsame.symm
        exact hc ▸ h.phased.ended hl
    · have hcount := hbefore.countP_eq Publisher.hasSender
      have hcount' := hafter.countP_eq Publisher.hasSender
      rw [List.countP_cons] at hcount hcount'
      have htotal := h.senders
      have htoNat : ∀ b : Bool, b.toNat = if b = true then 1 else 0 := by
        intro b
        cases b <;> rfl
      rw [htoNat, htoNat] at hsenders
      change c.senders = _
      rw [hcount']
      omega
    · refine (hafter.filterMap _).trans ?_
      rw [filterMap_cons_toList, haccepted, List.append_assoc]
      have hold := (hbefore.filterMap Publisher.accepted?).symm.trans h.accepted
      rw [filterMap_cons_toList] at hold
      exact (List.perm_append_comm.append_left _).trans
        ((List.append_assoc _ _ _ ▸ .refl _ : List.Perm _ _).trans (hold.append_right _))
  · exact h

/-- What a handler is told and how it ends concerns the journal alone. -/
theorem retell (h : Orderly w) {current : Option (Dispatch H)} {counters : BusCounters}
    {telemetry : Telemetry} {invoked : List (Invocation H)}
    (hf : Faithful ⟨{ w.bus with current, counters, telemetry },
      { w.ledger.toJournal with invoked }⟩) :
    Orderly ⟨{ w.bus with current, counters, telemetry }, { w.ledger with invoked }⟩ where
  faithful := hf
  phased := ⟨h.phased.closed, h.phased.stopped, h.phased.taken, h.phased.awaited, h.phased.ended,
    h.phased.cleared⟩
  senders := h.senders
  accepted := h.accepted
  returned := h.returned
  abandoned := h.abandoned
  standing := h.standing
  stood := h.stood

theorem takeFrame (h : Orderly w) : Orderly (Move.takeFrame.perform w) := by
  have hf := h.faithful.perform .takeFrame
  simp only [Call.perform, World.journaled, Bus.takeFrame] at hf
  simp only [Move.perform, Bus.takeFrame]
  cases hd : w.bus.current with
  | none => exact h
  | some d =>
    simp only [hd, Option.map_some] at hf
    exact h.retell hf

theorem shutdown (h : Orderly w) : Orderly (Move.shutdown.perform w) :=
  { h with
    returned := fun hr => h.returned (by simpa [Move.perform] using hr)
    abandoned := fun ho => List.mem_append_left _ (h.abandoned ho) }

/-- One call to shut down goes from `c` to `c'` and takes the bus to `b`. -/
theorem setCloser (h : Orderly w) {n : Nat} {c c' : Closer} {b : Bus H} {orphaned : Bool}
    (hn : w.ledger.closers[n]? = some c) (hc : c = .abandoned → c' = .abandoned)
    (hf : Faithful ⟨b, w.ledger.toJournal⟩) (hp : Phased b orphaned)
    (hs : b.channel.senders = w.bus.channel.senders)
    (hr : c' = .returned ∨ w.bus.draining = .done → b.draining = .done)
    (ho : orphaned = w.ledger.orphaned ∨ orphaned = true ∧ c' = .abandoned)
    (ht : b.draining ≠ .done →
      w.bus.draining ≠ .done ∧ b.table.entries = w.bus.table.entries) :
    Orderly ⟨b, { w.ledger with closers := w.ledger.closers.set n c', orphaned }⟩ where
  faithful := hf
  phased := hp
  senders := hs.trans h.senders
  accepted := h.accepted
  returned := fun hm => by
    rcases List.mem_or_eq_of_mem_set hm with ho | hn
    · exact hr (.inr (h.returned ho))
    · exact hr (.inl hn.symm)
  abandoned := fun ht => by
    rcases ho with hsame | ⟨-, rfl⟩
    · exact mem_set_of_mem hn (h.abandoned (hsame.symm.trans ht)) hc
    · exact List.mem_set (List.getElem?_eq_some_iff.mp hn).1 _
  standing := fun hd => by
    obtain ⟨hd, he⟩ := ht hd
    have hg : grantsIn b.table = grantsIn w.bus.table := by
      simp only [grantsIn, SubscriptionTable.rows, he]
    rw [hg]
    exact h.standing hd
  stood := by
    rcases ho with rfl | ⟨rfl, -⟩
    · exact h.stood
    · exact .inl rfl

/-- A drain that goes on changes nothing that the journal tells of. -/
theorem faithful_of_bus (h : Orderly w) {b : Bus H} (hl : b.loopEnded = w.bus.loopEnded)
    (hk : b.counters = w.bus.counters) (hc : b.current = w.bus.current)
    (hi : b.channel.items = w.bus.channel.items)
    (hr : Registered b w.ledger.granted) : Faithful ⟨b, w.ledger.toJournal⟩ :=
  h.faithful.of_frame (.of_bus hl (congrArg BusCounters.dispatched hk) hc hi) hr

theorem close (h : Orderly w) (n : Nat) : Orderly ((Move.close n).perform w) := by
  simp only [Move.perform]
  split
  · rename_i c hn
    change Orderly ⟨(c.advance w.bus).2, { w.ledger with
      closers := w.ledger.closers.set n (c.advance w.bus).1, orphaned := w.ledger.orphaned }⟩
    have hkeep : c = .abandoned → (c.advance w.bus).1 = .abandoned := by
      rintro rfl
      rfl
    obtain ⟨hb, hr⟩ | ⟨hc, hcases⟩ := c.advance_cases w.bus
    · rw [hb]
      refine h.setCloser hn hkeep h.faithful h.phased rfl ?_ (.inl rfl) fun hd => ⟨hd, rfl⟩
      rintro (hret | hd)
      · rcases hr hret with rfl | hd
        · exact h.returned (List.mem_of_getElem? hn)
        · exact hd
      · exact hd
    · obtain ⟨hd, hb⟩ | ⟨hd, hb⟩ | ⟨hd, hb⟩ | ⟨awaits, hd, hl, hb⟩ := hcases
      · rw [hb]
        refine h.setCloser hn hkeep ?_ (h.phased.closeTable hd) rfl (by simp [hc, hd]) (.inl rfl)
          fun _ => ⟨by simp [hd], rfl⟩
        exact h.faithful_of_bus rfl rfl rfl rfl (h.faithful.registered.congr rfl rfl rfl)
      · rw [hb]
        refine h.setCloser hn hkeep ?_ (h.phased.stopPublishing hd) rfl (by simp [hc, hd])
          (.inl rfl) fun _ => ⟨by simp [hd], rfl⟩
        exact h.faithful_of_bus rfl rfl rfl rfl (h.faithful.registered.congr rfl rfl rfl)
      · rw [hb]
        refine h.setCloser hn hkeep ?_ (h.phased.takeLoop hd) rfl (by simp [hc, hd])
          (.inl rfl) fun _ => ⟨by simp [hd], rfl⟩
        exact h.faithful_of_bus rfl rfl rfl rfl (h.faithful.registered.congr rfl rfl rfl)
      · rw [hb]
        refine h.setCloser hn hkeep ?_ (h.phased.endDrain hd hl) rfl (fun _ => rfl)
          (.inl rfl) fun hne => absurd rfl hne
        exact h.faithful_of_bus rfl rfl rfl rfl
          (h.faithful.registered.of_rows_subset (.clear _) (List.nil_subset _) rfl)
  · exact h

theorem abandon (h : Orderly w) (n : Nat) : Orderly ((Move.abandon n).perform w) := by
  simp only [Move.perform]
  split
  · rename_i c hn
    change Orderly ⟨(c.abandon w.bus).2, { w.ledger with
      closers := w.ledger.closers.set n (c.abandon w.bus).1
      orphaned := w.ledger.orphaned || (c = .draining && (c.abandon w.bus).1 = .abandoned) }⟩
    have hkeep : c = .abandoned → (c.abandon w.bus).1 = .abandoned := by
      rintro rfl
      rfl
    obtain ⟨hb, hdraining, hr⟩ | ⟨rfl, hc, hd, hb⟩ := c.abandon_cases w.bus
    · have horphaned : (c = .draining && (c.abandon w.bus).1 = .abandoned : Bool) = false := by
        by_cases hd : c = .draining
        · simp [hdraining hd]
        · simp [hd]
      rw [hb, horphaned, Bool.or_false]
      refine h.setCloser hn hkeep h.faithful h.phased rfl ?_ (.inl rfl) fun hd => ⟨hd, rfl⟩
      rintro (hret | hd)
      · exact h.returned (hr hret ▸ List.mem_of_getElem? hn)
      · exact hd
    · have hp := h.phased.abandonShutdown hd
      rw [abandonShutdown_eq hd] at hb hp
      rw [hb, hc]
      simp only [decide_true, Bool.and_true, Bool.or_true]
      refine h.setCloser hn (fun _ => rfl) ?_ hp rfl (by simp [hd]) (.inr ⟨rfl, rfl⟩)
        fun _ => ⟨by simp [hd], rfl⟩
      exact h.faithful_of_bus rfl rfl rfl rfl (h.faithful.registered.congr rfl rfl rfl)
  · exact h

theorem perform (h : Orderly w) (m : Move H) : Orderly (m.perform w) := by
  cases m with
  | subscribe now f handler => exact h.subscribe now f handler
  | unsubscribe id => exact h.unsubscribe id
  | publish e waits => exact h.publish e waits
  | advance n => exact h.advance n
  | takeFrame => exact h.takeFrame
  | shutdown => exact h.shutdown
  | close n => exact h.close n
  | abandon n => exact h.abandon n

theorem performAll (h : Orderly w) (script : List (Move H)) :
    Orderly (World.performAll script w) := by
  induction script generalizing w with
  | nil => exact h
  | cons m rest ih => exact ih (h.perform m)

/-- The loop takes an event off the queue. The table has not been cleared yet, unless a drain was
given up. -/
theorem dispatching (h : Orderly w) {e : Event} {c : Channel Event}
    (hl : w.bus.loopEnded = false) (hd : w.bus.current = none)
    (hc : w.bus.channel.receive = some (e, c)) :
    Orderly ⟨w.bus.dispatching e c, { w.ledger with
      snapshots := w.ledger.snapshots ++ [w.bus.table]
      stood := w.ledger.stood ++ [w.ledger.standing] }⟩ := by
  obtain ⟨haccepting, hsenders⟩ := Channel.receive_senders hc
  refine ⟨h.faithful.dispatching hl hd hc, ?_, hsenders.trans h.senders, h.accepted, h.returned,
    h.abandoned, h.standing, ?_⟩
  · refine ⟨h.phased.closed, fun hi hcl => haccepting.trans (h.phased.stopped hi hcl),
      h.phased.taken, h.phased.awaited, fun hend => ?_, h.phased.cleared⟩
    exact absurd hend (by simp [Bus.dispatching, hl])
  · rcases h.stood with ho | hstood
    · exact .inl ho
    by_cases hdone : w.bus.draining = .done
    · exact .inl ((h.phased.done hdone).resolve_left (by simp [hl]))
    · exact .inr (List.rel_append hstood (.cons (h.standing hdone) .nil))

/-- A handler is called, others make their moves, and it ends. -/
theorem invoking (h : Orderly w) {d : Dispatch H} {id : SubscriptionId} {handler : H}
    {rest : List (SubscriptionId × H)} (hd : w.bus.current = some d)
    (ht : d.targets = (id, handler) :: rest) (script : List (Move H)) (o : HandlerOutcome) :
    let r := World.handle script o id handler
      { w.bus with current := some { d with targets := rest } } w.ledger
    Orderly ⟨r.2.1.recordOutcome id d.event.type o, r.2.2⟩ := by
  have hcalled := h.retell (h.faithful.noteInvocation hd ht)
  have hafter := hcalled.performAll script
  obtain ⟨k, f, t, hrecord⟩ := recordOutcome_eq (World.performAll script _).bus id d.event.type o
  change Orderly ⟨Bus.recordOutcome (World.performAll script _).bus id d.event.type o, _⟩
  rw [hrecord]
  refine hafter.retell ?_
  exact hafter.faithful.of_frame (.of_bus rfl rfl rfl rfl)
    (hafter.faithful.registered.congr rfl rfl rfl)

theorem deliver (h : Orderly w) (script : List (Move H)) (outcome : HandlerOutcome) :
    Orderly (World.deliver script outcome w) := by
  unfold World.deliver
  split
  · rename_i b l hs
    have hl := stepLoop_running hs
    obtain ⟨d, hd, ht, rfl, rfl⟩ | ⟨d, id, handler, rest, o, b₁, hd, ht, hreact, rfl⟩ |
      ⟨e, c, hd, hc, rfl, rfl⟩ | ⟨hd, hf, rfl, rfl⟩ := stepLoop_cases hs
    · have hnote : World.noteDispatch w.ledger w.bus { w.bus with current := none } = w.ledger := by
        simp [World.noteDispatch]
      rw [hnote]
      exact h.retell (h.faithful.finishing hd ht)
    · have hcall := h.invoking hd ht script o
      have ho : outcome = o := congrArg Prod.fst hreact
      rw [← ho] at hcall ⊢
      simp only [hreact] at hcall
      simpa [World.noteDispatch, hd] using hcall
    · simpa [World.noteDispatch, hd, Bus.dispatching] using h.dispatching hl hd hc
    · have hnote : World.noteDispatch w.ledger w.bus { w.bus with loopEnded := true } =
          w.ledger := by
        simp [World.noteDispatch, hd]
      rw [hnote]
      exact ⟨h.faithful.ending hd, ⟨h.phased.closed, h.phased.stopped, h.phased.taken,
        fun hj => .inr (.inl rfl), fun _ => hf, h.phased.cleared⟩, h.senders, h.accepted,
        h.returned, h.abandoned, h.standing, h.stood⟩
  · exact h

theorem reorder (h : Orderly w) {entries : List (Filter × List (Subscriber H))}
    (hp : entries.Perm w.bus.table.entries) :
    Orderly { w with bus := { w.bus with table := { w.bus.table with entries } } } := by
  have hrows : SubscriptionTable.rows { w.bus.table with entries } |>.Perm w.bus.table.rows :=
    hp.flatMap_right _
  refine ⟨?_, ?_, h.senders, h.accepted, h.returned, h.abandoned, fun hd => ?_, h.stood⟩
  · exact h.faithful.of_frame (.of_bus rfl rfl rfl rfl)
      (h.faithful.registered.of_rows_subset (h.faithful.registered.table.reorder hp) hrows.subset
        rfl)
  · refine ⟨h.phased.closed, h.phased.stopped, h.phased.taken, h.phased.awaited, h.phased.ended,
      fun hd => ?_⟩
    obtain ⟨he, ho⟩ := h.phased.cleared hd
    exact ⟨List.perm_nil.mp (he ▸ hp), ho⟩
  · exact (hrows.map _).trans (h.standing hd)

theorem step {y : World H} (h : Orderly w) (hs : World.Step w y) : Orderly y := by
  cases hs with
  | move m => exact h.perform m
  | deliver script outcome => exact h.deliver script outcome
  | reorder _ entries hp => exact h.reorder hp

theorem later {y : World H} (h : Orderly w) (hs : World.Later w y) : Orderly y := by
  induction hs with
  | refl => exact h
  | tail _ hs ih => exact ih.step hs

theorem of_reachable {capacity : Nat} (h : World.Reachable capacity w) : Orderly w :=
  (start capacity).later h

end Orderly

end Fanout.Bus
