import Fanout.Proofs.Bus.Drain

/-!
Shutting a bus down while others use it. Once a call to shut down has returned, every event accepted
has gone to the subscriptions that stood when its turn came, and nothing happens any more. This needs
that no call was given up while it waited for the loop.
-/
namespace Fanout.Bus

variable {H : Type}

/-- The calls of handlers that are wanted: for each event those of the subscriptions that stood. -/
def Ledger.wanted (l : Ledger H) : List (Invocation H) :=
  ((l.accepted.zip l.stood).zipIdx 1).flatMap fun p =>
    (p.1.2.filter fun g => g.filter.accepts p.1.1).map fun g => ⟨p.2, g.id, g.handler, p.1.1⟩

/-- If each table held what stood, the calls planned are those wanted. -/
theorem planned_perm_wanted (l : Ledger H)
    (h : List.Forall₂ (fun t gs => (grantsIn t).Perm gs) l.snapshots l.stood) :
    l.planned.Perm l.wanted := by
  unfold Journal.planned Journal.turns Ledger.wanted
  revert h
  generalize 1 = n, l.accepted = es, l.snapshots = ts, l.stood = gss
  intro h
  induction h generalizing es n with
  | nil => simp
  | @cons t gs ts gss ht _ ih =>
    cases es with
    | nil => simp
    | cons e es =>
      simp only [List.zip_cons_cons, List.zipIdx_cons, List.flatMap_cons]
      refine List.Perm.append ?_ (ih (n + 1) es)
      rw [targets_eq_grants, List.map_map]
      exact (ht.filter _).map _

namespace World

/-- Nothing is left to do: no call to publish is under way, each event accepted has had its turn,
and the handlers called are those of the subscriptions that stood then. -/
structure Drained (w : World H) : Prop where
  returned : ∀ p ∈ w.ledger.publishers, ∃ e result, p = .returned e result
  accepted : (w.ledger.publishers.filterMap Publisher.accepted?).Perm w.ledger.accepted
  idle : w.bus.channel.items = [] ∧ w.bus.current = none ∧ w.bus.loopEnded = true
  dispatched : w.ledger.stood.length = w.ledger.accepted.length
  invoked : w.ledger.invoked.Perm w.ledger.wanted
  table : w.bus.table.entries = [] ∧ w.bus.table.owners = []

/-- The bus in `y` refuses everything, and since `x` nothing else has happened. -/
structure Sealed (x y : World H) : Prop where
  table : y.bus.table.entries = [] ∧ y.bus.table.owners = []
  invoked : y.ledger.invoked = x.ledger.invoked
  accepted : y.ledger.accepted = x.ledger.accepted
  publishers : ∃ new, y.ledger.publishers = x.ledger.publishers ++ new ∧
    ∀ p ∈ new, ∃ e, p = .returned e (.error .busClosed)
  subscribe : ∀ now f h, f.check = .ok () → y.bus.subscribe now f h = .error .busClosed
  publish : ∀ e waits, Publisher.enter y.bus e waits = (.returned e (.error .busClosed), y.bus)
  tryPublish : ∀ e, y.bus.tryPublish e = (.error .busClosed, y.bus)
  advance : ∀ c : Closer, (c.advance y.bus).2 = y.bus
  shutdown : ∀ {σ : Type} (react : React H σ) (fuel : Nat) (s : σ),
    y.bus.shutdown react fuel s = (y.bus, s)

end World

/-- If a call to shut down has returned and none was given up while it waited for the loop, then
nothing is left to do. -/
theorem Orderly.drained {w : World H} (h : Orderly w) (hr : .returned ∈ w.ledger.closers)
    (ho : w.ledger.orphaned = false) : w.Drained := by
  have hdone := h.returned hr
  have hended : w.bus.loopEnded = true := (h.phased.done hdone).resolve_right (by simp [ho])
  have hcurrent : w.bus.current = none := h.faithful.running hended
  obtain ⟨hitems, -, hsenders⟩ := Channel.isFinished_iff.mp (h.phased.ended hended)
  have hstood := h.stood.resolve_left (by simp [ho])
  refine ⟨fun p hp => ?_, h.accepted, ⟨hitems, hcurrent, hended⟩, ?_, ?_, h.phased.cleared hdone⟩
  · cases hs : p.hasSender with
    | true =>
      have := h.senders_pos hp hs
      omega
    | false =>
      cases p with
      | returned e result => exact ⟨e, result, rfl⟩
      | _ => cases hs
  · obtain ⟨taken, htaken, hlen⟩ := h.faithful.queue
    have hall : w.ledger.accepted = taken := by simpa [World.journaled, hitems] using htaken
    rw [← hstood.length_eq, hall]
    exact hlen.symm
  · have hplan : w.ledger.invoked = w.ledger.planned := by
      simpa [owed, World.journaled, hcurrent] using h.faithful.plan
    rw [hplan]
    exact planned_perm_wanted w.ledger hstood

/-- The bus has been shut down, and nothing has been accepted and nobody called since `x`. -/
structure Final (x y : World H) : Prop where
  done : y.bus.draining = .done
  ended : y.bus.loopEnded = true
  invoked : y.ledger.invoked = x.ledger.invoked
  accepted : y.ledger.accepted = x.ledger.accepted
  publishers : ∃ new, y.ledger.publishers = x.ledger.publishers ++ new ∧
    ∀ p ∈ new, ∃ e, p = .returned e (.error .busClosed)

namespace Final

variable {x y z : World H}

theorem perform (h : Final x y) (ho : Orderly y) (hx : x.Drained) (m : Move H) :
    Final x (m.perform y) := by
  obtain ⟨new, hpublishers, hnew⟩ := h.publishers
  have hclosed := ho.phased.closed (by simp [h.done])
  have hstopped := ho.phased.stopped (by simp [h.done]) (by simp [h.done])
  cases m with
  | subscribe now f handler =>
    simp only [Move.perform]
    split
    · rename_i id b hs
      rw [(subscribe_eq hs).1] at hclosed
      cases hclosed
    · exact h
  | unsubscribe id =>
    simp only [Move.perform, unsubscribe_eq]
    split_ifs
    · exact ⟨h.done, h.ended, h.invoked, h.accepted, h.publishers⟩
    · exact ⟨h.done, h.ended, h.invoked, h.accepted, h.publishers⟩
  | publish e waits =>
    simp only [Move.perform, Publisher.enter_closed hstopped]
    refine ⟨h.done, h.ended, h.invoked, h.accepted,
      new ++ [.returned e (.error .busClosed)], by simp [hpublishers], fun p hp => ?_⟩
    rcases List.mem_append.mp hp with hold | hlast
    · exact hnew p hold
    · exact ⟨e, List.mem_singleton.mp hlast⟩
  | advance n =>
    simp only [Move.perform]
    split
    · rename_i p hn
      have hp : p.hasSender = false := by
        rcases List.mem_append.mp (hpublishers ▸ List.mem_of_getElem? hn) with hold | hlast
        · obtain ⟨e, result, rfl⟩ := hx.returned p hold
          rfl
        · obtain ⟨e, rfl⟩ := hnew p hlast
          rfl
      obtain ⟨hlt, hget⟩ := List.getElem?_eq_some_iff.mp hn
      have hset : y.ledger.publishers.set n p = y.ledger.publishers :=
        hget ▸ List.set_getElem_self hlt
      simp only [Publisher.advance_of_hasSender hp, Publisher.newlyAccepted_self, hset,
        List.append_nil]
      exact h
    · exact h
  | takeFrame =>
    have hcurrent : y.bus.current = none := ho.faithful.running h.ended
    simp only [Move.perform, Bus.takeFrame, hcurrent]
    exact h
  | shutdown => exact ⟨h.done, h.ended, h.invoked, h.accepted, h.publishers⟩
  | close n =>
    simp only [Move.perform]
    split
    · rename_i c _
      simp only [Closer.advance_done h.done c]
      exact ⟨h.done, h.ended, h.invoked, h.accepted, h.publishers⟩
    · exact h
  | abandon n =>
    simp only [Move.perform]
    split
    · rename_i c _
      simp only [Closer.abandon_done h.done c]
      exact ⟨h.done, h.ended, h.invoked, h.accepted, h.publishers⟩
    · exact h

theorem step (h : Final x y) (ho : Orderly y) (hx : x.Drained) (hs : World.Step y z) :
    Final x z := by
  cases hs with
  | move m => exact h.perform ho hx m
  | deliver script outcome =>
    have hnone : y.bus.stepLoop (World.handle script outcome) y.ledger = none := by
      simp [stepLoop, h.ended]
    simp only [World.deliver, hnone]
    exact h
  | reorder => exact ⟨h.done, h.ended, h.invoked, h.accepted, h.publishers⟩

theorem later (hx : x.Drained) (ho : Orderly x) (hd : x.bus.draining = .done)
    (hs : World.Later x y) : Final x y := by
  induction hs with
  | refl => exact ⟨hd, hx.idle.2.2, rfl, rfl, [], by simp, by simp⟩
  | tail hbefore hlast ih => exact ih.step (ho.later hbefore) hx hlast

theorem shut (h : Final x y) (ho : Orderly y) : World.Sealed x y := by
  have hclosed := ho.phased.closed (by simp [h.done])
  have hstopped := ho.phased.stopped (by simp [h.done]) (by simp [h.done])
  have hacquire : y.bus.acquire = .error .busClosed := by
    simp [Bus.acquire, Channel.acquire, hstopped]
  refine ⟨ho.phased.cleared h.done, h.invoked, h.accepted, h.publishers, fun now f handler hf => ?_,
    Publisher.enter_closed hstopped, fun e => ?_, Closer.advance_done h.done,
    fun react fuel s => ?_⟩
  · simp [Bus.subscribe, hf, hclosed]
  · simp [Bus.tryPublish, hacquire]
  · have hrun : y.bus.runLoop react fuel s = (y.bus, s) := by
      cases fuel with
      | zero => rfl
      | succ n => simp [Bus.runLoop, Bus.stepLoop, h.ended]
    simp [Bus.shutdown, Bus.beginShutdown, Bus.stepShutdown, h.done, hrun]

end Final

/-- A shutdown loses nothing and is final. -/
theorem shutdown_drained_sealed {capacity : Nat} {x : World H}
    (hx : World.Reachable capacity x) (hr : .returned ∈ x.ledger.closers)
    (ha : .abandoned ∉ x.ledger.closers) :
    x.Drained ∧ ∀ y, World.Later x y → World.Sealed x y := by
  have h := Orderly.of_reachable hx
  have ho : x.ledger.orphaned = false := by
    by_contra hne
    exact ha (h.abandoned (by simpa using hne))
  have hdrained := h.drained hr ho
  refine ⟨hdrained, fun y hy => ?_⟩
  exact (Final.later hdrained h (h.returned hr) hy).shut (h.later hy)

/-- Two calls to shut down meet a publisher that waits for room. Its event is delivered, and what a
handler tries during the drain is refused. -/
theorem shutdown_drained_sealed_full :
    let t : Time.Timestamp := ⟨⟨2024, 1, 1⟩, 0, 0⟩
    let e : String → Event := fun type => ⟨type, t, [], none, none⟩
    let x₀ : World Nat := ⟨.new 1, {}⟩
    let x₁ := World.performAll [.subscribe t ⟨.any, none, none⟩ 7, .publish (e "a") false,
      .advance 0, .publish (e "b") true, .advance 1, .shutdown, .close 0, .close 0, .shutdown,
      .close 0] x₀
    let x₂ := World.deliver [] .handled x₁
    let x₃ := World.deliver [.advance 1, .subscribe t ⟨.any, none, none⟩ 8, .publish (e "c") false]
      (.failed "late") x₂
    let x₄ := World.performAll [.advance 0, .advance 0, .advance 1, .advance 1] x₃
    let x₅ := (World.deliver [] .handled)^[5] x₄
    let x := World.performAll [.close 0, .close 0] x₅
    let call : Invocation Nat → Nat × Nat × String := fun i => (i.turn, i.handler, i.event.type)
    x.ledger.closers = [.returned, .waiting] ∧ x.ledger.stood.length = 2 ∧
      (x.ledger.invoked.map call).Perm [(1, 7, "a"), (2, 7, "b")] ∧
      ∀ y, World.Later x y → y.ledger.invoked = x.ledger.invoked := by
  intro t e x₀ x₁ x₂ x₃ x₄ x₅ x call
  have hdeliver : ∀ n (w : World Nat), World.Later w ((World.deliver [] .handled)^[n] w) := by
    intro n
    induction n with
    | zero => exact fun w => .refl
    | succ n ih => exact fun w => (Relation.ReflTransGen.single (.deliver _ _ w)).trans (ih _)
  have hx : World.Reachable 1 x :=
    ((((((World.later_performAll _ x₀).tail (.deliver _ _ x₁)).tail (.deliver _ _ x₂)).trans
      (World.later_performAll _ x₃)).trans (hdeliver 5 x₄)).trans (World.later_performAll _ x₅))
  have hclosers : x.ledger.closers = [.returned, .waiting] := by decide +kernel
  obtain ⟨hdrained, hsealed⟩ :=
    shutdown_drained_sealed hx (by rw [hclosers]; decide) (by rw [hclosers]; decide)
  have haccepted : x.ledger.accepted.length = 2 := by decide +kernel
  have hwanted : x.ledger.wanted.map call = [(1, 7, "a"), (2, 7, "b")] := by decide +kernel
  exact ⟨hclosers, hdrained.dispatched.trans haccepted, hwanted ▸ hdrained.invoked.map call,
    fun y hy => (hsealed y hy).invoked⟩

/-- When a call to shut down has returned, nothing is left to do or one before it was given up while
it waited for the loop. -/
theorem drained_or_orphaned {capacity : Nat} {x : World H} (hx : World.Reachable capacity x)
    (hr : .returned ∈ x.ledger.closers) : x.Drained ∨ x.ledger.orphaned = true := by
  cases ho : x.ledger.orphaned with
  | true => exact .inr rfl
  | false => exact .inl ((Orderly.of_reachable hx).drained hr ho)

/-- With the loop taken before, a call to shut down that nobody comes between does not wait. -/
theorem Closer.advance_of_taken {b : Bus H} (hd : b.draining = .idle) (hj : b.loopJoinable = false) :
    (fun x : Closer × Bus H => x.1.advance x.2)^[5] (.waiting, b) =
      (.returned, b.beginDrain.endDrain) := by
  simp [advance, stepDrain, stepShutdown, hd, hj, beginDrain, closeTable, stopPublishing, takeLoop,
    endDrain, gaugeSubscriptions]

/-- The call that came in last goes on by itself. -/
theorem performAll_close_last (m : Nat) (b : Bus H) (l : Ledger H) (cs : List Closer) (c : Closer) :
    World.performAll (List.replicate m (.close cs.length)) ⟨b, { l with closers := cs ++ [c] }⟩ =
      let x := (fun x : Closer × Bus H => x.1.advance x.2)^[m] (c, b)
      ⟨x.2, { l with closers := cs ++ [x.1] }⟩ := by
  induction m generalizing b c with
  | zero => rfl
  | succ m ih =>
    have hclose : (Move.close cs.length).perform ⟨b, { l with closers := cs ++ [c] }⟩ =
        ⟨(c.advance b).2, { l with closers := cs ++ [(c.advance b).1] }⟩ := by
      simp [Move.perform]
    rw [List.replicate_succ, World.performAll, List.foldl_cons, hclose]
    exact ih (c.advance b).2 (c.advance b).1

/-- A call that waits for the loop can be given up at any time. The next one then waits for nothing:
it clears the table and returns with all that was queued still there. -/
theorem exists_return_after_abandon {capacity : Nat} {w : World H}
    (hw : World.Reachable capacity w) {n : Nat} (hn : w.ledger.closers[n]? = some .draining)
    (hd : w.bus.draining = .active true) :
    ∃ y, World.Later w y ∧ .returned ∈ y.ledger.closers ∧ y.bus.table.entries = [] ∧
      y.bus.channel.items = w.bus.channel.items ∧ y.bus.current = w.bus.current ∧
      y.ledger.toJournal = w.ledger.toJournal := by
  have hj : w.bus.loopJoinable = false :=
    (Orderly.of_reachable hw).phased.taken (by simp [hd]) (by simp [hd]) (by simp [hd])
  have habandon : World.performAll [.abandon n, .shutdown] w =
      ⟨{ w.bus with draining := .idle }, { w.ledger with
        closers := w.ledger.closers.set n .abandoned ++ [.waiting], orphaned := true }⟩ := by
    simp [World.performAll, Move.perform, hn, Closer.abandon, hd, abandonShutdown_eq hd]
  have hrun := performAll_close_last 5 { w.bus with draining := .idle }
    { w.ledger with orphaned := true } (w.ledger.closers.set n .abandoned) .waiting
  rw [@Closer.advance_of_taken H { w.bus with draining := .idle } rfl hj, ← habandon] at hrun
  have hlater := World.later_performAll
    (List.replicate 5 (.close (w.ledger.closers.set n .abandoned).length))
    (World.performAll [.abandon n, .shutdown] w)
  rw [hrun] at hlater
  exact ⟨_, (World.later_performAll _ w).trans hlater, by simp, rfl, rfl, rfl, rfl⟩

/-- Such a call returns although an event is queued, which then goes to nobody. -/
theorem not_drained_after_abandon :
    let t : Time.Timestamp := ⟨⟨2024, 1, 1⟩, 0, 0⟩
    let w₀ : World Nat := ⟨.new 1, {}⟩
    let w := World.performAll [.subscribe t ⟨.any, none, none⟩ 7,
      .publish ⟨"a", t, [], none, none⟩ false, .advance 0, .advance 0, .advance 0, .shutdown,
      .close 0, .close 0, .close 0] w₀
    let x := World.performAll (.abandon 0 :: .shutdown :: List.replicate 5 (.close 1)) w
    let y := (World.deliver [] .handled)^[3] x
    World.Reachable 1 x ∧ .returned ∈ x.ledger.closers ∧ x.ledger.accepted.length = 1 ∧
      ¬ x.Drained ∧ y.bus.loopEnded = true ∧ y.ledger.invoked.length = 0 := by
  intro t w₀ w x y
  have hw : World.Reachable 1 w := World.later_performAll _ w₀
  have hx : World.Reachable 1 x := Relation.ReflTransGen.trans hw (World.later_performAll _ w)
  have hreturned : .returned ∈ x.ledger.closers := by decide +kernel
  have haccepted : x.ledger.accepted.length = 1 := by decide +kernel
  have hstood : x.ledger.stood.length = 0 := by decide +kernel
  have hended : y.bus.loopEnded = true := by decide +kernel
  have hinvoked : y.ledger.invoked.length = 0 := by decide +kernel
  have hnot : ¬ x.Drained := fun hdrained => by
    have hall := hdrained.dispatched
    omega
  exact ⟨hx, hreturned, haccepted, hnot, hended, hinvoked⟩

end Fanout.Bus
