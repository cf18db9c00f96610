import Fanout.Proofs.Server.Queue
import Fanout.Proofs.Server.Writing
import Mathlib.Data.List.Basic

/-!
Nothing is written once a call to close has returned, whoever else is at work on the connection. It
rests on the gate: the writer looks at the connection again once it has the gate, and a call to close
cancels the connection before it asks for the gate.
-/
namespace Fanout

namespace Gate

variable {τ : Type} [DecidableEq τ] {g g' : Gate τ} {p q : τ} {b : Bool}

/-- What `p` can do with a gate. It may count on having it afterwards if `b`. -/
inductive Use (p : τ) : Bool → Gate τ → Gate τ → Prop
  | rest {b : Bool} {g : Gate τ} (h : b = true → g.holder = some p) : Use p b g g
  | request (g : Gate τ) : Use p false g (g.request p)
  | release {g : Gate τ} (h : g.holder = some p) : Use p false g g.release
  | withdraw (g : Gate τ) : Use p false g (g.withdraw p)

theorem Use.idle (g : Gate τ) : Use p false g g := .rest (by rintro ⟨⟩)

theorem Use.holder (h : Use p true g g') : g'.holder = some p := by
  cases h with
  | rest h => exact h rfl

/-- Nobody takes the gate from somebody else. -/
theorem Use.holder_of_ne (h : Use p b g g') (hq : g.holder = some q) (hne : q ≠ p) :
    g'.holder = some q := by
  cases h with
  | rest => exact hq
  | request => simp [Gate.request, hq]
  | release hp => exact absurd (Option.some.inj (hq.symm.trans hp)) hne
  | withdraw => simp [Gate.withdraw, heldBy, hq, hne]

end Gate

def Outgoing.text? : Outgoing → Option String
  | .text frame => some frame
  | .ping _ => none

def texts (ms : List Outgoing) : List String := ms.filterMap Outgoing.text?

theorem texts_append (ms ms' : List Outgoing) : texts (ms ++ ms') = texts ms ++ texts ms' :=
  List.filterMap_append

namespace WriterMoment

def holds : WriterMoment → Bool
  | .holding _ | .tested _ | .sending _ _ | .ended _ | .refused => true
  | _ => false

/-- Whether it is to send, come what may, or sends. -/
def isWriting : WriterMoment → Bool
  | .tested _ | .sending _ _ => true
  | _ => false

/-- What has left the queue and has not been handed to the socket. -/
def inHand : WriterMoment → List Outgoing
  | .taken m | .queued m | .holding m | .tested m => [m]
  | _ => []

/-- Whether a send that failed or took too long has ended the writer. -/
def hasFailed : WriterMoment → Bool
  | .leaving e | .exited e => e ≠ .closed
  | _ => false

variable {c c' : Connection} {m m' : WriterMoment}

theorem holds_of_isWriting (h : m.isWriting) : m.holds := by
  cases m with
  | tested | sending => rfl
  | _ => cases h

inductive Turn (c : Connection) : WriterMoment → WriterMoment → Connection → Prop
  | looks : Turn c .choosing .looking c
  | quits : Turn c .choosing (.exited .closed) c
  | quitsLooking : Turn c .looking (.exited .closed) c
  | findsNothing : Turn c .looking .choosing c
  | takes {frame : String} {frames : List String} (h : c.queue.frames = frame :: frames) :
    Turn c .looking (.taken (.text frame)) { c with queue := { c.queue with frames } }
  | pings (n : Nat) : Turn c .looking (.taken (.ping n)) c
  | asks (o : Outgoing) : Turn c (.taken o) (.queued o) { c with gate := c.gate.request .writer }
  | waits (o : Outgoing) : Turn c (.queued o) (.queued o) c
  | enters (o : Outgoing) (h : c.gate.holder = some .writer) : Turn c (.queued o) (.holding o) c
  | refuses (o : Outgoing) : Turn c (.holding o) .refused c
  | tests (o : Outgoing) (h : c.cancelled = false) : Turn c (.holding o) (.tested o) c
  | sends (o : Outgoing) (deadline : Nat) : Turn c (.tested o) (.sending o deadline) c
  | ends (o : Outgoing) (deadline : Nat) (r : SendResult) (t : Telemetry) :
    Turn c (.sending o deadline) (.ended r) { c with telemetry := t }
  | releases (r : SendResult) : Turn c (.ended r) (.released r) { c with gate := c.gate.release }
  | resumes : Turn c (.released .sent) .choosing c
  | fails (r : SendResult) (e : WriterExit) : Turn c (.released r) (.leaving e) c.cancel
  | gives : Turn c .refused (.exited .closed) { c with gate := c.gate.release }
  | exits (e : WriterExit) : Turn c (.leaving e) (.exited e) c
  | stays (e : WriterExit) : Turn c (.exited e) (.exited e) c

namespace Turn

theorem use (h : Turn c m m' c') (hm : m.holds → c.gate.holder = some .writer) :
    c.gate.Use .writer m'.holds c'.gate := by
  cases h with
  | asks => exact .request _
  | enters _ h => exact .rest fun _ => h
  | refuses | tests | sends | ends => exact .rest fun _ => hm rfl
  | releases | gives => exact .release (hm rfl)
  | _ => exact .rest fun h => by cases h

theorem isWriting (h : Turn c m m' c') (hw : m'.isWriting) : m.isWriting ∨ c.cancelled = false := by
  cases h with
  | tests _ h => exact .inr h
  | sends => exact .inl rfl
  | _ => cases hw

theorem cancelled (h : Turn c m m' c') (hc : c.cancelled) : c'.cancelled := by
  cases h with
  | fails => rfl
  | _ => exact hc

/-- A bad end costs the connection. -/
theorem hasFailed (h : Turn c m m' c') (hf : m'.hasFailed) : m.hasFailed ∨ c'.cancelled := by
  cases h with
  | fails => exact .inr rfl
  | exits | stays => exact .inl hf
  | _ => cases hf

/-- Frames keep their order between the queue and the socket. -/
theorem texts_sublist (h : Turn c m m' c') :
    (texts (m.begun ++ m'.inHand) ++ c'.queue.frames).Sublist
      (texts m.inHand ++ c.queue.frames) := by
  cases h with
  | takes h => simp [texts, begun, inHand, Outgoing.text?, h]
  | pings => simp [texts, begun, inHand, Outgoing.text?]
  | refuses => exact List.sublist_append_right _ _
  | _ => exact List.Sublist.refl _

end Turn

end WriterMoment

/-- A look at the queue. -/
theorem Scribe.advance_looking (s : Scribe) (c : Connection) (now : Nat) (r : SendResult)
    (hm : s.moment = .looking) :
    WriterMoment.Turn c .looking (s.advance c now r).1.moment (s.advance c now r).2 := by
  simp only [advance, hm]
  cases hclosed : c.queue.closed with
  | true => exact .quitsLooking
  | false =>
    cases hframes : c.queue.frames with
    | cons frame frames =>
      have hpop : c.popFrame = (some frame, { c with queue := { c.queue with frames } }) := by
        simp [Connection.popFrame, OutboundQueue.pop, hclosed, hframes]
      simp only [hpop, Bool.false_eq_true, if_false]
      exact .takes hframes
    | nil =>
      have hpop : c.popFrame = (none, { c with queue := { c.queue with frames := [] } }) := by
        simp [Connection.popFrame, OutboundQueue.pop, hclosed, hframes]
      simp only [hpop, Bool.false_eq_true, if_false]
      cases s.pingMs with
      | none => exact .findsNothing
      | some period =>
        by_cases hdue : s.nextPing ≤ now
        · simpa only [hdue, if_true] using .pings _
        · simpa only [hdue, if_false] using .findsNothing

theorem Scribe.advance_turn (s : Scribe) (c : Connection) (now : Nat) (r : SendResult) :
    s.moment.Turn c (s.advance c now r).1.moment (s.advance c now r).2 := by
  cases hm : s.moment with
  | looking => exact s.advance_looking c now r hm
  | choosing =>
    cases hc : c.cancelled with
    | true => simpa [advance, hm, hc] using .quits
    | false => simpa [advance, hm, hc] using .looks
  | queued o =>
    by_cases hg : c.gate.heldBy .writer
    · simpa [advance, hm, hg] using .enters o (by simpa [Gate.heldBy] using hg)
    · simpa [advance, hm, hg] using .waits o
  | holding o =>
    cases hc : c.cancelled with
    | true => simpa [advance, hm, hc, Connection.isClosed] using .refuses o
    | false => simpa [advance, hm, hc, Connection.isClosed] using .tests o hc
  | sending o deadline =>
    simp only [advance, hm]
    cases r with
    | sent | failed => exact .ends o deadline _ c.telemetry
    | timedOut => exact .ends o deadline _ _
  | released r =>
    simp only [advance, hm]
    cases r with
    | sent => exact .resumes
    | failed | timedOut => exact .fails _ _
  | taken o => simpa only [advance, hm] using .asks o
  | tested o => simpa only [advance, hm] using .sends o _
  | ended r => simpa only [advance, hm] using .releases r
  | refused => simpa only [advance, hm] using .gives
  | leaving e => simpa only [advance, hm] using .exits e
  | exited e => simpa only [advance, hm] using .stays e

namespace CloserMoment

def hasCancelled : CloserMoment → Bool
  | .called | .emptied => false
  | _ => true

/-- Whether it has or has had the gate. -/
def hasEntered : CloserMoment → Bool
  | .holding | .released | .returned => true
  | _ => false

theorem hasCancelled_of_hasEntered {k : CloserMoment} (h : k.hasEntered) : k.hasCancelled := by
  cases k with
  | holding | released | returned => rfl
  | _ => cases h

structure Turn (n : Nat) (k k' : CloserMoment) (c c' : Connection) : Prop where
  use : c.gate.Use (.closer n) (k' = .holding) c'.gate
  cancelled : c.cancelled → c'.cancelled
  hasCancelled : k'.hasCancelled → k.hasCancelled ∨ c'.cancelled
  hasEntered : k'.hasEntered → k.hasEntered ∨ c.gate.holder = some (.closer n)
  frames : c'.queue.frames.Sublist c.queue.frames
  returned : k = .returned → k' = .returned

variable {n : Nat} {k : CloserMoment} {c : Connection}

theorem Turn.stay (n : Nat) (k : CloserMoment) (c : Connection)
    (hk : k = .holding → c.gate.holder = some (.closer n)) : Turn n k k c c where
  use := .rest fun h => hk (of_decide_eq_true h)
  cancelled := id
  hasCancelled := .inl
  hasEntered := .inl
  frames := .refl _
  returned := id

theorem advance_turn (hk : k = .holding → c.gate.holder = some (.closer n)) :
    Turn n k (k.advance n c).1 c (k.advance n c).2 := by
  cases k with
  | called => exact ⟨.idle _, id, by rintro ⟨⟩, by rintro ⟨⟩, List.nil_sublist _, by rintro ⟨⟩⟩
  | emptied => exact ⟨.idle _, fun _ => rfl, fun _ => .inr rfl, by rintro ⟨⟩, .refl _, by rintro ⟨⟩⟩
  | cancelled => exact ⟨.request _, id, fun _ => .inl rfl, by rintro ⟨⟩, .refl _, by rintro ⟨⟩⟩
  | waiting =>
    simp only [advance]
    by_cases hg : c.gate.heldBy (.closer n)
    · have hg' : c.gate.holder = some (.closer n) := by simpa [Gate.heldBy] using hg
      simp only [hg, if_true]
      exact ⟨.rest fun _ => hg', id, fun _ => .inl rfl, fun _ => .inr hg', .refl _, by rintro ⟨⟩⟩
    · simpa only [hg, if_false] using .stay n .waiting c hk
  | holding =>
    exact ⟨.release (hk rfl), id, fun _ => .inl rfl, fun _ => .inl rfl, .refl _, by rintro ⟨⟩⟩
  | released => exact ⟨.idle _, id, fun _ => .inl rfl, fun _ => .inl rfl, .refl _, by rintro ⟨⟩⟩
  | returned | abandoned => exact .stay n _ c hk

theorem abandon_turn (hk : k = .holding → c.gate.holder = some (.closer n)) :
    Turn n k (k.abandon n c).1 c (k.abandon n c).2 := by
  cases k with
  | waiting => exact ⟨.withdraw _, id, fun _ => .inl rfl, by rintro ⟨⟩, .refl _, by rintro ⟨⟩⟩
  | _ => exact .stay n _ c hk

end CloserMoment

namespace Scene

variable {s s' : Scene}

def Holds (s : Scene) : GateParty → Prop
  | .writer => s.scribe.moment.holds
  | .closer n => s.closers[n]? = some .holding
  | .outsider => False

structure Tidy (s : Scene) : Prop where
  holder : ∀ p, s.Holds p → s.connection.gate.holder = some p
  cancelled : ∀ k ∈ s.closers, k.hasCancelled → s.connection.cancelled
  /-- The writer sends nothing beside a call to close that has had the gate. -/
  apart : ∀ k ∈ s.closers, k.hasEntered → s.scribe.moment.isWriting = false
  failed : s.scribe.moment.hasFailed → s.connection.cancelled
  ordered : (texts (s.handed ++ s.scribe.moment.inHand) ++ s.connection.queue.frames).Sublist
    s.pushed

/-- Whoever uses the gate, those who count on it have it. -/
theorem Tidy.holder_of_use (h : s.Tidy) {p : GateParty} {b : Bool}
    (hu : s.connection.gate.Use p b s'.connection.gate) (hself : s'.Holds p → b = true)
    (hothers : ∀ q ≠ p, s'.Holds q → s.Holds q) (q : GateParty) (hq : s'.Holds q) :
    s'.connection.gate.holder = some q := by
  by_cases hqp : q = p
  · subst hqp
    obtain rfl := hself hq
    exact hu.holder
  · exact hu.holder_of_ne (h.holder q (hothers q hqp hq)) hqp

theorem Tidy.start (id : ConnectionId) (session : Option String) (capacity : Nat)
    (policy : OverflowPolicy) (opened writeMs : Nat) (pingMs : Option Nat) (now : Nat) :
    (start (.new id session capacity policy opened) writeMs pingMs now).Tidy where
  holder p hp := by
    cases p with
    | writer | outsider => cases hp
    | closer n => simp [Holds, Scene.start] at hp
  cancelled _ hk := absurd hk List.not_mem_nil
  apart _ hk := absurd hk List.not_mem_nil
  failed hf := by cases hf
  ordered := .refl _

theorem Tidy.write (h : s.Tidy) (now : Nat) (r : SendResult) :
    (s.perform (.write now r)).Tidy := by
  have ht := s.scribe.advance_turn s.connection now r
  constructor
  · refine h.holder_of_use (ht.use (h.holder .writer)) id ?_
    intro q hq hholds
    cases q with
    | writer => exact absurd rfl hq
    | closer n => exact hholds
    | outsider => exact hholds
  · intro k hk hc
    exact ht.cancelled (h.cancelled k hk hc)
  · intro k hk he
    rw [← Bool.not_eq_true]
    intro hw
    obtain hw | hw := ht.isWriting hw
    · exact absurd hw (by simp [h.apart k hk he])
    · exact absurd hw (by simp [h.cancelled k hk (CloserMoment.hasCancelled_of_hasEntered he)])
  · intro hf
    obtain hf | hc := ht.hasFailed hf
    · exact ht.cancelled (h.failed hf)
    · exact hc
  · have hord := ht.texts_sublist.append_left (texts s.handed)
    rw [← List.append_assoc, ← List.append_assoc, ← texts_append, ← texts_append,
      ← List.append_assoc] at hord
    exact hord.trans h.ordered

theorem Tidy.advance_turn (h : s.Tidy) {n : Nat} {k : CloserMoment} (hn : s.closers[n]? = some k) :
    k.Turn n (k.advance n s.connection).1 s.connection (k.advance n s.connection).2 :=
  CloserMoment.advance_turn fun hk => h.holder (.closer n) (hn.trans (congrArg some hk))

theorem Tidy.abandon_turn (h : s.Tidy) {n : Nat} {k : CloserMoment} (hn : s.closers[n]? = some k) :
    k.Turn n (k.abandon n s.connection).1 s.connection (k.abandon n s.connection).2 :=
  CloserMoment.abandon_turn fun hk => h.holder (.closer n) (hn.trans (congrArg some hk))

/-- A call to close moves on. -/
theorem Tidy.closer (h : s.Tidy) {n : Nat} {k k' : CloserMoment} {c : Connection}
    (hn : s.closers[n]? = some k) (ht : k.Turn n k' s.connection c) :
    Tidy { s with connection := c, closers := s.closers.set n k' } := by
  have hk : k ∈ s.closers := List.mem_of_getElem? hn
  have hlt : n < s.closers.length := (List.getElem?_eq_some_iff.mp hn).1
  constructor
  · refine h.holder_of_use ht.use ?_ ?_
    · intro hholds
      simpa [Holds, hlt] using hholds
    · intro q hq hholds
      cases q with
      | writer | outsider => exact hholds
      | closer m =>
        have hmn : n ≠ m := fun hmn => hq (hmn ▸ rfl)
        simpa [Holds, List.getElem?_set_ne hmn] using hholds
  · intro k₁ hk₁ hc
    obtain hk₁ | rfl := List.mem_or_eq_of_mem_set hk₁
    · exact ht.cancelled (h.cancelled k₁ hk₁ hc)
    · obtain hc | hc := ht.hasCancelled hc
      · exact ht.cancelled (h.cancelled k hk hc)
      · exact hc
  · intro k₁ hk₁ he
    obtain hk₁ | rfl := List.mem_or_eq_of_mem_set hk₁
    · exact h.apart k₁ hk₁ he
    · obtain he | hholder := ht.hasEntered he
      · exact h.apart k hk he
      · -- With the gate at the call, the writer cannot be at a send.
        rw [← Bool.not_eq_true]
        intro hw
        have hwriter := h.holder .writer (WriterMoment.holds_of_isWriting hw)
        rw [hholder] at hwriter
        cases hwriter
  · intro hf
    exact ht.cancelled (h.failed hf)
  · exact (ht.frames.append_left _).trans h.ordered

/-- Anybody but the writer and the calls to close moves on. -/
theorem Tidy.outside (h : s.Tidy) {c : Connection} {pushed : List String}
    (hu : s.connection.gate.Use .outsider false c.gate)
    (hc : s.connection.cancelled → c.cancelled)
    (hp : (texts (s.handed ++ s.scribe.moment.inHand) ++ c.queue.frames).Sublist pushed) :
    Tidy { s with connection := c, pushed } where
  holder := h.holder_of_use hu False.elim fun _ _ hq => hq
  cancelled k hk hk' := hc (h.cancelled k hk hk')
  apart := h.apart
  failed hf := hc (h.failed hf)
  ordered := hp

theorem Tidy.push (h : s.Tidy) (frame : String) : (s.perform (.push frame)).Tidy := by
  have hq := (s.connection.queue.push_sublist frame).append_left
    (texts (s.handed ++ s.scribe.moment.inHand))
  by_cases htaken : (s.connection.queue.push frame).1 = .queued ∨
      (s.connection.queue.push frame).1 = .droppedOldest
  · rw [if_pos htaken, ← List.append_assoc] at hq
    simp only [Scene.perform, if_pos htaken]
    exact h.outside (.idle _) id (hq.trans (h.ordered.append_right [frame]))
  · rw [if_neg htaken] at hq
    simp only [Scene.perform, if_neg htaken]
    exact h.outside (.idle _) id (hq.trans h.ordered)

theorem Tidy.close (h : s.Tidy) : (s.perform .close).Tidy where
  holder q hq := by
    refine h.holder q ?_
    cases q with
    | writer | outsider => exact hq
    | closer n =>
      obtain hlt | hge := Nat.lt_or_ge n s.closers.length
      · exact (List.getElem?_append_left hlt).symm.trans hq
      · have hmem := (List.getElem?_append_right hge).symm.trans hq
        cases List.mem_singleton.mp (List.mem_of_getElem? hmem)
  cancelled k hk hc := by
    obtain hk | hk := List.mem_append.mp hk
    · exact h.cancelled k hk hc
    · obtain rfl := List.mem_singleton.mp hk
      cases hc
  apart k hk he := by
    obtain hk | hk := List.mem_append.mp hk
    · exact h.apart k hk he
    · obtain rfl := List.mem_singleton.mp hk
      cases he
  failed := h.failed
  ordered := h.ordered

theorem Tidy.perform (h : s.Tidy) (m : Move) : (s.perform m).Tidy := by
  cases m with
  | push frame => exact h.push frame
  | cancel => exact h.outside (.idle _) (fun _ => rfl) h.ordered
  | write now r => exact h.write now r
  | close => exact h.close
  | advance n =>
    simp only [Scene.perform]
    split
    · rename_i k hn
      exact h.closer hn (h.advance_turn hn)
    · exact h
  | abandon n =>
    simp only [Scene.perform]
    split
    · rename_i k hn
      exact h.closer hn (h.abandon_turn hn)
    · exact h
  | hold => exact h.outside (.request _) id h.ordered
  | letGo =>
    simp only [Scene.perform]
    split_ifs with hg
    · exact h.outside (.release (by simpa [Gate.heldBy] using hg)) id h.ordered
    · exact h

theorem Tidy.of_reachable (h : s.Reachable) : s.Tidy := by
  obtain ⟨id, session, capacity, policy, opened, writeMs, pingMs, now, hlater⟩ := h
  apply hlater.keeps (.start id session capacity policy opened writeMs pingMs now)
  intro t m ht
  exact ht.perform m

theorem returned_mem_set {ks : List CloserMoment} {n : Nat} {k k' : CloserMoment}
    {c c' : Connection} (h : .returned ∈ ks) (hn : ks[n]? = some k) (ht : k.Turn n k' c c') :
    .returned ∈ ks.set n k' := by
  obtain ⟨i, hi⟩ := List.getElem?_of_mem h
  by_cases hni : n = i
  · subst hni
    have hk : k = .returned := Option.some.inj (hn.symm.trans hi)
    rw [ht.returned hk]
    exact List.mem_set (List.getElem?_eq_some_iff.mp hn).1 _
  · exact List.mem_of_getElem? ((List.getElem?_set_ne hni).trans hi)

/-- A call that has returned stays so. -/
theorem Tidy.returned_mem_perform (h : s.Tidy) (hr : .returned ∈ s.closers) (m : Move) :
    .returned ∈ (s.perform m).closers := by
  cases m with
  | push | cancel | write | hold => exact hr
  | close => exact List.mem_append_left _ hr
  | advance n =>
    simp only [Scene.perform]
    split
    · rename_i k hn
      exact returned_mem_set hr hn (h.advance_turn hn)
    · exact hr
  | abandon n =>
    simp only [Scene.perform]
    split
    · rename_i k hn
      exact returned_mem_set hr hn (h.abandon_turn hn)
    · exact hr
  | letGo =>
    simp only [Scene.perform]
    split_ifs <;> exact hr

/-- A move beside a call to close that has returned sends nothing. -/
theorem Tidy.handed_perform (h : s.Tidy) (hr : .returned ∈ s.closers) (m : Move) :
    (s.perform m).handed = s.handed := by
  cases m with
  | write now r =>
    have hw := h.apart .returned hr rfl
    have hb : s.scribe.moment.begun = [] := by
      cases hm : s.scribe.moment with
      | tested => simp [hm, WriterMoment.isWriting] at hw
      | _ => rfl
    simp [Scene.perform, hb]
  | advance n | abandon n =>
    simp only [Scene.perform]
    split <;> rfl
  | letGo =>
    simp only [Scene.perform]
    split_ifs <;> rfl
  | push | cancel | close | hold => rfl

/-- From when a call to close has returned no send is under way and none begins. What is sent are
frames that were queued, in their order and each once, and a writer that leaves for a bad send leaves
a connection that is cancelled. -/
theorem silence_of_reachable (hs : s.Reachable) (h : Later s s') :
    (.returned ∈ s.closers →
      (∀ o deadline, s'.scribe.moment ≠ .sending o deadline) ∧ s'.handed = s.handed) ∧
    (texts s'.handed).Sublist s'.pushed ∧
    ∀ e, s'.scribe.moment = .exited e → e ≠ .closed → s'.connection.cancelled := by
  have ht := Tidy.of_reachable hs
  have ht' : s'.Tidy := h.keeps ht fun _ m ht => ht.perform m
  refine ⟨?_, ?_, ?_⟩
  · intro hr
    have hsilent : s'.Tidy ∧ .returned ∈ s'.closers ∧ s'.handed = s.handed := by
      apply h.keeps (P := fun t => t.Tidy ∧ .returned ∈ t.closers ∧ t.handed = s.handed)
      · exact ⟨ht, hr, rfl⟩
      · rintro t m ⟨ht, hr, hh⟩
        exact ⟨ht.perform m, ht.returned_mem_perform hr m, (ht.handed_perform hr m).trans hh⟩
    refine ⟨?_, hsilent.2.2⟩
    intro o deadline hm
    have hw := ht'.apart .returned hsilent.2.1 rfl
    simp [hm, WriterMoment.isWriting] at hw
  · have hord := ht'.ordered
    rw [texts_append, List.append_assoc] at hord
    exact (List.sublist_append_left _ _).trans hord
  · intro e he hne
    exact ht'.failed (by simp [he, WriterMoment.hasFailed, hne])

/-- A call to close comes when the first frame is written and the second one is taken. It has the gate
before the writer, and the second frame is not sent. -/
theorem silence_of_race :
    let w : Nat → Move → List Move := List.replicate
    let s := follow (start (.new ⟨"a"⟩ none 4 .dropOldest 0) 10 none 0)
      ([.push "1", .push "2"] ++ w 11 (.write 0 .sent) ++ [.close] ++ w 4 (.advance 0) ++
        [.write 0 .sent] ++ w 2 (.advance 0))
    s.closers = [.returned] ∧ s.scribe.moment = .queued (.text "2") ∧ s.handed = [.text "1"] ∧
      ∀ s', Later s s' → s'.handed = [.text "1"] := by
  intro w s
  have hs : s.Reachable := ⟨⟨"a"⟩, none, 4, .dropOldest, 0, 10, none, 0, later_follow _ _⟩
  have hclosers : s.closers = [.returned] := by decide +kernel
  have hmoment : s.scribe.moment = .queued (.text "2") := by decide +kernel
  have hhanded : s.handed = [.text "1"] := by decide +kernel
  refine ⟨hclosers, hmoment, hhanded, ?_⟩
  intro s' h
  have hr : .returned ∈ s.closers := by
    rw [hclosers]
    exact List.mem_singleton.mpr rfl
  exact ((silence_of_reachable hs h).1 hr).2.trans hhanded

end Scene

end Fanout
