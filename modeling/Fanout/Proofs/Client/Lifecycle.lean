import Fanout.Proofs.Client.Course

/-!
The life of a session. Main statement: in every run its states follow one another as they may, it
gives up after a bounded number of handshakes and says so once, and a request to close is granted
only by a session that will do nothing more.
-/
namespace Fanout

def SessionPhase.state : SessionPhase → SessionState
  | .idle => .idle
  | .connecting _ => .connecting
  | .connected _ => .connected
  | .waiting _ => .reconnecting
  | .givingUp _ | .ended => .closed

/-- The handshakes that may have begun since one succeeded, after so many delays. -/
def SessionPhase.handshakes (attempt : Nat) : SessionPhase → Nat
  | .idle | .connected _ => 0
  | .waiting _ => attempt
  | .connecting _ | .givingUp _ | .ended => attempt + 1

namespace SessionPhase

theorem handshakes_of_closed {p : SessionPhase} {attempt : Nat} (h : p.state = .closed) :
    p.handshakes attempt = attempt + 1 := by
  cases p <;> simp_all [state, handshakes]

theorem handshakes_le (p : SessionPhase) (attempt : Nat) : p.handshakes attempt ≤ attempt + 1 := by
  cases p <;> simp [handshakes]

end SessionPhase

namespace Session

inductive Ending where
  | asked
  | exhausted
  deriving DecidableEq

structure Life where
  /-- Handshakes begun since the start or since one succeeded. -/
  dials : Nat := 0
  /-- The attempts given in each last word that the owner was told. -/
  signals : List Nat := []
  ending : Option Ending := none

def life : Observer Life where
  blank := {}
  note o before after n :=
    { dials := (if o.isHandshake then 0 else n.dials) + (after.dialed.length - before.dialed.length)
      signals := n.signals ++
        (after.events.drop before.events.length).filterMap SessionEvent.exhausted?
      ending := n.ending <|>
        if after.state = .closed then some (if o.isFarewell then .asked else .exhausted) else none }

/-- How a closed session ended, and what its owner was told of it. -/
inductive Closing (most : Nat) (s : Session) (n : Life) : Prop where
  | asked (hp : s.phase = .ended) (he : n.ending = some .asked) (hn : n.signals = [])
  | silent (hp : s.phase = .givingUp most) (he : n.ending = some .exhausted) (hn : n.signals = [])
  | signalled (hp : s.phase = .ended) (he : n.ending = some .exhausted) (hn : n.signals = [most])
  | unheard (hp : s.phase = .ended) (he : n.ending = some .exhausted) (hn : n.signals = [])
      (hw : s.watched = false)

structure Lived (config : SessionConfig) (s : Session) (n : Life) : Prop where
  orderly : s.course.Orderly
  state_eq : s.course.state = s.phase.state
  limit : s.course.backoff.config = config.backoff
  attempt_le : s.course.backoff.attempt ≤ config.backoff.maxAttempts
  dials_le : n.dials ≤ s.phase.handshakes s.course.backoff.attempt
  running : s.isOpen → s.course.granted = [] ∧ n.signals = [] ∧ n.ending = none
  closing : s.isOpen = false → s.buffer.messages = [] ∧ Closing config.backoff.maxAttempts s n

variable {o : Occasion} {s s' : Session} {n : Life} {config : SessionConfig}

theorem note_signals (o : Occasion) (n : Life) (hq : Mute s s') :
    (life.note o s s' n).signals = n.signals := by
  simp [life, hq.signals]

theorem note_dials (n : Life) (ho : o.isHandshake = false)
    (hd : s'.course.dialed = s.course.dialed) : (life.note o s s' n).dials = n.dials := by
  have hd : s'.dialed = s.dialed := hd
  simp [life, ho, hd]

theorem note_ending (hn : n.ending = none) (hs : s'.course.state ≠ .closed) :
    (life.note o s s' n).ending = none := by
  have hs : s'.state ≠ .closed := hs
  simp [life, hn, hs]

theorem note_ending_closed (hn : n.ending = none) (hs : s'.course.state = .closed) :
    (life.note o s s' n).ending = some (if o.isFarewell then .asked else .exhausted) := by
  have hs : s'.state = .closed := hs
  simp [life, hn, hs]

theorem note_ending_of_some {e : Ending} (hn : n.ending = some e) :
    (life.note o s s' n).ending = some e := by
  simp [life, hn]

theorem isConnected_iff : s.isConnected ↔ ∃ b, s.phase = .connected b := by
  unfold isConnected
  cases s.phase <;> simp

theorem isOpen_iff (s : Session) : s.isOpen ↔ s.phase.state ≠ .closed := by
  unfold isOpen
  cases s.phase <;> simp [SessionPhase.state]

theorem state_eq_closed (h : s.isOpen = false) : s.phase.state = .closed := by
  rw [← Bool.not_eq_true, isOpen_iff] at h
  exact Classical.not_not.mp h

theorem Occasion.isFarewell_of_handshake (h : o.isHandshake = true) : o.isFarewell = false := by
  cases o <;> simp_all [isHandshake, isFarewell]

theorem Lived.start (config : SessionConfig) : Lived config (.new config) life.blank where
  orderly := ⟨.singleton _, rfl⟩
  state_eq := rfl
  limit := rfl
  attempt_le := Nat.zero_le _
  dials_le := Nat.le_refl 0
  running := fun _ => ⟨rfl, rfl, rfl⟩
  closing := fun h => absurd h (by simp [isOpen, new])

/-- A session that stays open has nothing new to note but its handshakes. -/
theorem Lived.of_isOpen (hs : s.isOpen) (h : Lived config s n) (hq : Mute s s')
    (horderly : s'.course.Orderly) (hstate : s'.course.state = s'.phase.state)
    (hopen : s'.phase.state ≠ .closed) (hlimit : s'.course.backoff.config = config.backoff)
    (hattempt : s'.course.backoff.attempt ≤ config.backoff.maxAttempts)
    (hdials : (life.note o s s' n).dials ≤ s'.phase.handshakes s'.course.backoff.attempt)
    (hgranted : s'.course.granted = s.course.granted) : Lived config s' (life.note o s s' n) := by
  have hrun := h.running hs
  constructor
  · exact horderly
  · exact hstate
  · exact hlimit
  · exact hattempt
  · exact hdials
  · intro _
    exact ⟨hgranted.trans hrun.1, (note_signals o n hq).trans hrun.2.1,
      note_ending hrun.2.2 (hstate ▸ hopen)⟩
  · intro hs'
    exact absurd (state_eq_closed hs') hopen

/-- What is said of a closed session stays true while it does nothing. -/
theorem Closing.carry {most : Nat} (h : Closing most s n) (hp : s'.phase = s.phase)
    (hq : Mute s s') : Closing most s' (life.note o s s' n) := by
  have hn := note_signals o n hq
  cases h with
  | asked hs he hsig => exact .asked (hp.trans hs) (note_ending_of_some he) (hn.trans hsig)
  | silent hs he hsig => exact .silent (hp.trans hs) (note_ending_of_some he) (hn.trans hsig)
  | signalled hs he hsig => exact .signalled (hp.trans hs) (note_ending_of_some he) (hn.trans hsig)
  | unheard hs he hsig hw =>
    refine .unheard (hp.trans hs) (note_ending_of_some he) (hn.trans hsig) ?_
    exact Bool.eq_false_iff.mpr fun hw' => by simp [hq.watched hw'] at hw

/-- A closed session may grant requests to close and say its last word. -/
theorem Lived.of_closed (hs : s.isOpen = false) (h : Lived config s n)
    (ho : o.isHandshake = false) (tickets : List Nat) (hk : s'.course = s.course.grant tickets)
    (hp : s'.phase.state = .closed) (hb : s'.buffer = s.buffer)
    (hclosing : Closing config.backoff.maxAttempts s' (life.note o s s' n)) :
    Lived config s' (life.note o s s' n) := by
  have hclosed := state_eq_closed hs
  have hold := h.dials_le
  rw [SessionPhase.handshakes_of_closed hclosed] at hold
  constructor
  · rw [hk]
    exact ⟨h.orderly.path, h.orderly.last⟩
  · rw [hk, hp, ← hclosed]
    exact h.state_eq
  · rw [hk]
    exact h.limit
  · rw [hk]
    exact h.attempt_le
  · have hdialed : s'.course.dialed = s.course.dialed := by
      rw [hk]
      rfl
    rw [SessionPhase.handshakes_of_closed hp, note_dials n ho hdialed, hk]
    exact hold
  · intro hs'
    exact absurd hp ((isOpen_iff s').mp hs')
  · intro _
    rw [hb]
    exact ⟨(h.closing hs).1, hclosing⟩

/-- A session ends because it is asked to, or because all attempts were in vain. -/
theorem Lived.of_ending (hs : s.isOpen) (h : Lived config s n) (hq : Mute s s')
    (horderly : s'.course.Orderly) (hstate : s'.course.state = .closed)
    (hlimit : s'.course.backoff.config = config.backoff)
    (hattempt : s'.course.backoff.attempt ≤ config.backoff.maxAttempts)
    (hdials : (life.note o s s' n).dials ≤ s'.course.backoff.attempt + 1)
    (hm : s'.buffer.messages = [])
    (hp : o.isFarewell = true ∧ s'.phase = .ended ∨
      o.isFarewell = false ∧ s'.phase = .givingUp config.backoff.maxAttempts) :
    Lived config s' (life.note o s s' n) := by
  have hrun := h.running hs
  have hsig := (note_signals o n hq).trans hrun.2.1
  have hend := note_ending_closed (o := o) (s := s) hrun.2.2 hstate
  have hclosed : s'.phase.state = .closed := by
    rcases hp with ⟨-, hp⟩ | ⟨-, hp⟩ <;> rw [hp] <;> rfl
  constructor
  · exact horderly
  · rw [hstate, hclosed]
  · exact hlimit
  · exact hattempt
  · rw [SessionPhase.handshakes_of_closed hclosed]
    exact hdials
  · intro hs'
    exact absurd hclosed ((isOpen_iff s').mp hs')
  · intro _
    refine ⟨hm, ?_⟩
    rcases hp with ⟨hf, hp⟩ | ⟨hf, hp⟩
    · rw [hf] at hend
      exact .asked hp hend hsig
    · rw [hf] at hend
      exact .silent hp hend hsig

/-- A failed handshake or connection, on a course where the last of them may just have succeeded. -/
theorem Lived.failed {k : Course} (hs : s.isOpen) (h : Lived config s n) (hf : o.isFarewell = false)
    (horderly : k.Orderly) (hnext : k.state.canBecome .disconnected = true)
    (hlimit : k.backoff.config = config.backoff)
    (hattempt : k.backoff.attempt ≤ config.backoff.maxAttempts)
    (hgranted : k.granted = s.course.granted) (hdialed : k.dialed = s.course.dialed)
    (hdials : (if o.isHandshake then 0 else n.dials) ≤ k.backoff.attempt + 1) (hq : Mute s s')
    (hfail : Failed k s') : Lived config s' (life.note o s s' n) := by
  have hdown := horderly.enter hnext
  have hnote : s'.course.dialed = k.dialed →
      (life.note o s s' n).dials ≤ k.backoff.attempt + 1 := by
    intro hd
    have hd : s'.dialed = s.dialed := hd.trans hdialed
    simpa [life, hd] using hdials
  cases hfail with
  | waits delay retryAt hb hk hp =>
    have hup : ((k.enter .disconnected).enter .reconnecting).Orderly :=
      hdown.enter (by rw [Course.enter_state]; rfl)
    have hlt : k.backoff.attempt < config.backoff.maxAttempts := by
      simpa [Backoff.exhausted, hlimit] using hb
    have hd := hnote (by simp [hk, Course.retry])
    apply Lived.of_isOpen hs h hq
    · rw [hk]
      exact ⟨hup.path, hup.last⟩
    · simp [hk, hp, Course.retry, SessionPhase.state]
    · simp [hp, SessionPhase.state]
    · rw [hk]
      exact hlimit
    · rw [hk]
      exact hlt
    · rw [hk, hp]
      exact hd
    · rw [hk, ← hgranted]
      simp [Course.retry]
  | givesUp hb hk hp hm =>
    have hmost : k.backoff.attempt = config.backoff.maxAttempts := by
      have hge : config.backoff.maxAttempts ≤ k.backoff.attempt := by
        simpa [Backoff.exhausted, hlimit] using hb
      exact Nat.le_antisymm hattempt hge
    have hd := hnote (by simp [hk, Course.giveUp])
    have hback : s'.course.backoff = k.backoff := by simp [hk, Course.giveUp]
    rw [hmost] at hp
    apply Lived.of_ending hs h hq
    · rw [hk]
      exact hdown.enter (by rw [Course.enter_state]; rfl)
    · simp [hk, Course.giveUp]
    · rw [hback]
      exact hlimit
    · rw [hback]
      exact hattempt
    · rw [hback]
      exact hd
    · exact hm
    · exact .inr ⟨hf, hp⟩

theorem Lived.still (h : Lived config s n) (ho : o.isHandshake = false)
    (hk : s'.course = s.course) (hp : s'.phase = s.phase ∨ s.isConnected ∧ s'.isConnected)
    (hb : s.isOpen = false → s'.buffer = s.buffer) (hq : Mute s s') :
    Lived config s' (life.note o s s' n) := by
  cases hs : s.isOpen with
  | true =>
    have hphase : s'.phase.state = s.phase.state ∧
        ∀ a, s'.phase.handshakes a = s.phase.handshakes a := by
      rcases hp with hp | ⟨hc, hc'⟩
      · rw [hp]
        exact ⟨rfl, fun _ => rfl⟩
      · obtain ⟨b, hb⟩ := isConnected_iff.mp hc
        obtain ⟨b', hb'⟩ := isConnected_iff.mp hc'
        rw [hb, hb']
        exact ⟨rfl, fun _ => rfl⟩
    apply Lived.of_isOpen hs h hq
    · rw [hk]
      exact h.orderly
    · rw [hk, hphase.1]
      exact h.state_eq
    · rw [hphase.1]
      exact (isOpen_iff s).mp hs
    · rw [hk]
      exact h.limit
    · rw [hk]
      exact h.attempt_le
    · rw [note_dials n ho (congrArg Course.dialed hk), hk, hphase.2]
      exact h.dials_le
    · rw [hk]
  | false =>
    have hsame : s'.phase = s.phase := by
      rcases hp with hp | ⟨hc, -⟩
      · exact hp
      · rw [isOpen_of_isConnected hc] at hs
        cases hs
    apply Lived.of_closed hs h ho []
    · rw [hk, Course.grant_nil]
    · rw [hsame]
      exact state_eq_closed hs
    · exact hb hs
    · exact (h.closing hs).2.carry hsame hq

theorem Lived.dials (h : Lived config s n) (address : String) (ho : o.isHandshake = false)
    (hs : s.phase = .idle ∨ ∃ t, s.phase = .waiting t) (hk : s'.course = s.course.dial address)
    (hp : ∃ t, s'.phase = .connecting t) (hq : Mute s s') :
    Lived config s' (life.note o s s' n) := by
  obtain ⟨t, hp⟩ := hp
  have hopen : s.isOpen := by
    rcases hs with hs | ⟨_, hs⟩ <;> simp [isOpen, hs]
  have hnext : s.course.state.canBecome .connecting = true := by
    rw [h.state_eq]
    rcases hs with hs | ⟨_, hs⟩ <;> rw [hs] <;> rfl
  have hle : n.dials ≤ s.course.backoff.attempt := by
    have hd := h.dials_le
    rcases hs with hs | ⟨_, hs⟩ <;> rw [hs] at hd
    · exact Nat.le_trans hd (Nat.zero_le _)
    · exact hd
  have hent := h.orderly.enter hnext
  apply Lived.of_isOpen hopen h hq
  · rw [hk]
    exact ⟨hent.path, hent.last⟩
  · simp [hk, hp, Course.dial, SessionPhase.state]
  · simp [hp, SessionPhase.state]
  · simpa [hk, Course.dial] using h.limit
  · simpa [hk, Course.dial] using h.attempt_le
  · have hdialed : s'.dialed = s.dialed ++ [address] := congrArg Course.dialed hk
    simpa [life, ho, hdialed, hk, hp, Course.dial, SessionPhase.handshakes] using hle
  · simp [hk, Course.dial]

theorem Lived.fails (h : Lived config s n) (ho : o.isHandshake = false) (hf : o.isFarewell = false)
    (hs : (∃ t, s.phase = .connecting t) ∨ s.isConnected) (hfail : Failed s.course s')
    (hq : Mute s s') : Lived config s' (life.note o s s' n) := by
  have hopen : s.isOpen := by
    rcases hs with ⟨_, hs⟩ | hs
    · simp [isOpen, hs]
    · exact isOpen_of_isConnected hs
  have hnext : s.course.state.canBecome .disconnected = true := by
    rw [h.state_eq]
    rcases hs with ⟨_, hs⟩ | hs
    · rw [hs]
      rfl
    · obtain ⟨_, hb⟩ := isConnected_iff.mp hs
      rw [hb]
      rfl
  apply Lived.failed hopen h hf h.orderly hnext h.limit h.attempt_le rfl rfl _ hq hfail
  rw [ho]
  exact Nat.le_trans h.dials_le (SessionPhase.handshakes_le _ _)

theorem Lived.accepts (h : Lived config s n) (ho : o.isHandshake = true)
    (hs : ∃ t, s.phase = .connecting t)
    (hacc : s'.course = s.course.accept ∧ s'.isConnected ∨ Failed s.course.accept s')
    (hq : Mute s s') : Lived config s' (life.note o s s' n) := by
  obtain ⟨t, hs⟩ := hs
  have hopen : s.isOpen := by simp [isOpen, hs]
  have hnext : s.course.state.canBecome .connected = true := by
    rw [h.state_eq, hs]
    rfl
  have horderly : s.course.accept.Orderly :=
    Course.Orderly.enter (k := { s.course with backoff := s.course.backoff.reset })
      ⟨h.orderly.path, h.orderly.last⟩ hnext
  have hlimit : s.course.accept.backoff.config = config.backoff := by
    simpa [Course.accept, Backoff.reset] using h.limit
  have hattempt : s.course.accept.backoff.attempt = 0 := by simp [Course.accept, Backoff.reset]
  have hdialed : s.course.accept.dialed = s.course.dialed := by simp [Course.accept]
  have hgranted : s.course.accept.granted = s.course.granted := by simp [Course.accept]
  rcases hacc with ⟨hk, hc⟩ | hfail
  · obtain ⟨b, hp⟩ := isConnected_iff.mp hc
    apply Lived.of_isOpen hopen h hq
    · rw [hk]
      exact horderly
    · simp [hk, hp, Course.accept, SessionPhase.state]
    · simp [hp, SessionPhase.state]
    · rw [hk]
      exact hlimit
    · rw [hk, hattempt]
      exact Nat.zero_le _
    · have hd : s'.dialed = s.dialed := by
        rw [← hk] at hdialed
        exact hdialed
      simp [life, ho, hd]
    · rw [hk, hgranted]
  · apply Lived.failed hopen h (Occasion.isFarewell_of_handshake ho) horderly _ hlimit _ hgranted
      hdialed _ hq hfail
    · simp [Course.accept, SessionState.canBecome]
    · rw [hattempt]
      exact Nat.zero_le _
    · simp [ho]

theorem Lived.closes (h : Lived config s n) (ticket : Option Nat) (ho : o.isFarewell = true)
    (hs : s.isOpen) (hk : s'.course = (s.course.enter .closed).grant ticket.toList)
    (hp : s'.phase = .ended) (hm : s'.buffer.messages = []) (hq : Mute s s') :
    Lived config s' (life.note o s s' n) := by
  have hnot : o.isHandshake = false := by
    rw [← Bool.not_eq_true]
    intro hh
    simp [Occasion.isFarewell_of_handshake hh] at ho
  have hnext : s.course.state.canBecome .closed = true := by
    have hstate := (isOpen_iff s).mp hs
    rw [h.state_eq]
    revert hstate
    cases s.phase <;> simp [SessionPhase.state, SessionState.canBecome]
  have hent := h.orderly.enter hnext
  have hdialed : s'.course.dialed = s.course.dialed := by simp [hk, Course.grant]
  have hback : s'.course.backoff = s.course.backoff := by simp [hk, Course.grant]
  apply Lived.of_ending hs h hq
  · rw [hk]
    exact ⟨hent.path, hent.last⟩
  · simp [hk, Course.grant]
  · rw [hback]
    exact h.limit
  · rw [hback]
    exact h.attempt_le
  · rw [note_dials n hnot hdialed, hback]
    exact Nat.le_trans h.dials_le (SessionPhase.handshakes_le _ _)
  · exact hm
  · exact .inl ⟨ho, hp⟩

theorem Lived.signals (h : Lived config s n) (attempts : Nat) (ho : o.isHandshake = false)
    (hs : s.phase = .givingUp attempts) (hk : s'.course = s.course) (hp : s'.phase = .ended)
    (hb : s'.buffer = s.buffer) (hw : s'.watched = s.watched)
    (he : s'.events = if s.watched then s.events ++ [.exhausted attempts] else s.events) :
    Lived config s' (life.note o s s' n) := by
  have hclosed : s.isOpen = false := by simp [isOpen, hs]
  apply Lived.of_closed hclosed h ho [] (by rw [hk, Course.grant_nil]) _ hb _
  · rw [hp]
    rfl
  · have hc := (h.closing hclosed).2
    cases hc with
    | asked hp' | signalled hp' | unheard hp' =>
      rw [hs] at hp'
      cases hp'
    | silent hp' hend hsig =>
      rw [hs] at hp'
      obtain rfl := SessionPhase.givingUp.inj hp'
      cases hwatch : s.watched with
      | true =>
        refine .signalled hp (note_ending_of_some hend) ?_
        rw [hwatch, if_pos rfl] at he
        simp [life, he, hsig, SessionEvent.exhausted?]
      | false =>
        refine .unheard hp (note_ending_of_some hend) ?_ (hw.trans hwatch)
        rw [hwatch] at he
        simp [life, he, hsig]

/-- Each turn keeps to the rules of a session's life. -/
theorem Lived.turn (h : Lived config s n) (ht : Turn o s s') :
    Lived config s' (life.note o s s' n) := by
  cases ht with
  | still ho hk hp hb hq => exact h.still ho hk hp hb hq
  | dials address ho hs hk hp hq => exact h.dials address ho hs hk hp hq
  | fails ho hf hs hfail hq => exact h.fails ho hf hs hfail hq
  | accepts ho hs hacc hq => exact h.accepts ho hs hacc hq
  | closes ticket ho hs hk hp hm hq => exact h.closes ticket ho hs hk hp hm hq
  | grants ticket ho hs hk hp hb hq =>
    apply Lived.of_closed hs h ho [ticket] hk _ hb ((h.closing hs).2.carry hp hq)
    rw [hp]
    exact state_eq_closed hs
  | signals attempts ho hs hk hp hb hw he => exact h.signals attempts ho hs hk hp hb hw he

theorem Lived.of_reachable {t : Observed Life} (h : life.Reachable config t) :
    Lived config t.session t.notes :=
  h.keeps (P := fun t => Lived config t.session t.notes) (.start config)
    fun _ _ _ _ _ _ hl hr => hl.turn (respond_turn hr)

/-- What can be said of a session at any time. -/
structure Lifecycle (config : SessionConfig) (t : Observed Life) : Prop where
  path : (SessionState.idle :: t.session.passed).IsChain fun a b => a.canBecome b = true
  last : (SessionState.idle :: t.session.passed).getLast? = some t.session.state
  /-- Nothing follows the end. -/
  closed_last : ∀ before after,
    SessionState.idle :: t.session.passed = before ++ .closed :: after → after = []
  dials_le : t.notes.dials ≤ config.backoff.maxAttempts + 1
  attempt_le : t.session.backoff.attempt ≤ config.backoff.maxAttempts
  ending : t.notes.ending.isSome ↔ t.session.state = .closed
  /-- The last word is said once at most, and only of a session that gave up. -/
  signals : t.notes.signals = [] ∨
    t.notes.signals = [config.backoff.maxAttempts] ∧ t.notes.ending = some .exhausted
  /-- By the time the last word is said the session is closed. -/
  signals_after : ∀ o now random,
    (life.step o now random t).notes.signals ≠ t.notes.signals → t.session.state = .closed
  /-- An owner who listens has heard the last word when the session is over. -/
  signalled : t.notes.ending = some .exhausted → t.session.phase = .ended → t.session.watched →
    t.notes.signals = [config.backoff.maxAttempts]
  /-- Until then it is said as soon as there is room. -/
  signals_next : t.notes.ending = some .exhausted → t.session.phase ≠ .ended →
    t.session.watched → t.session.events.length < eventCapacity → ∀ now random,
    (life.step .signal now random t).notes.signals = [config.backoff.maxAttempts]
  /-- A request to close is granted by a session that has nothing more to send. -/
  granted : t.session.granted ≠ [] →
    t.session.state = .closed ∧ t.session.buffer.messages = [] ∧
    ∀ t', life.Later t t' → t'.session.dialed = t.session.dialed ∧ t'.wire.sent = t.wire.sent

namespace Lived

variable (h : Lived config s n)

include h

theorem ending_iff : n.ending.isSome ↔ s.state = .closed := by
  have hstate : s.state = s.phase.state := h.state_eq
  rw [hstate]
  cases hs : s.isOpen with
  | true =>
    rw [(h.running hs).2.2]
    exact ⟨fun hn => absurd hn (by simp), fun hc => absurd hc ((isOpen_iff s).mp hs)⟩
  | false =>
    refine ⟨fun _ => state_eq_closed hs, fun _ => ?_⟩
    cases (h.closing hs).2 <;> simp [*]

theorem isOpen_of_exhausted (he : n.ending = some .exhausted) : s.isOpen = false := by
  rw [← Bool.not_eq_true]
  intro hs
  rw [(h.running hs).2.2] at he
  cases he

theorem signals_cases : n.signals = [] ∨
    n.signals = [config.backoff.maxAttempts] ∧ n.ending = some .exhausted := by
  cases hs : s.isOpen with
  | true => exact .inl (h.running hs).2.1
  | false =>
    cases (h.closing hs).2 with
    | asked _ _ hn | silent _ _ hn | unheard _ _ hn => exact .inl hn
    | signalled _ he hn => exact .inr ⟨hn, he⟩

theorem signals_of_ended (he : n.ending = some .exhausted) (hp : s.phase = .ended)
    (hw : s.watched = true) : n.signals = [config.backoff.maxAttempts] := by
  cases (h.closing (h.isOpen_of_exhausted he)).2 with
  | asked _ he' =>
    rw [he] at he'
    cases he'
  | silent hp' =>
    rw [hp] at hp'
    cases hp'
  | signalled _ _ hn => exact hn
  | unheard _ _ _ hw' =>
    rw [hw] at hw'
    cases hw'

theorem silent_of_not_ended (he : n.ending = some .exhausted) (hp : s.phase ≠ .ended) :
    s.phase = .givingUp config.backoff.maxAttempts ∧ n.signals = [] := by
  cases (h.closing (h.isOpen_of_exhausted he)).2 with
  | asked hp' | signalled hp' | unheard hp' => exact absurd hp' hp
  | silent hp' _ hn => exact ⟨hp', hn⟩

theorem closed_of_granted (hg : s.granted ≠ []) : s.isOpen = false := by
  rw [← Bool.not_eq_true]
  intro hs
  exact hg (h.running hs).1

/-- Only a closed session says the last word. -/
theorem signals_eq_of_respond {w w' : Wire} {now : Nat} {random : Float}
    (hr : respond o now random s w = some (s', w')) (hs : s.state ≠ .closed) :
    (life.note o s s' n).signals = n.signals := by
  cases respond_turn hr with
  | still _ _ _ _ hq | dials _ _ _ _ _ hq | fails _ _ _ _ hq | accepts _ _ _ hq
  | closes _ _ _ _ _ _ hq | grants _ _ _ _ _ _ hq => exact note_signals o n hq
  | signals _ _ hp =>
    have hstate : s.state = s.phase.state := h.state_eq
    rw [hp] at hstate
    exact absurd hstate hs

end Lived

theorem step_signal {t : Observed Life} {attempts : Nat} (now : Nat) (random : Float)
    (hp : t.session.phase = .givingUp attempts) (hw : t.session.watched = true)
    (hroom : t.session.events.length < eventCapacity) :
    (life.step .signal now random t).notes.signals = t.notes.signals ++ [attempts] := by
  have hs : t.session.signal = some
      { t.session with events := t.session.events ++ [.exhausted attempts], phase := .ended } := by
    simp [signal, emit, hp, hw, Nat.not_le.mpr hroom, hroom]
  simp [Observer.step, respond, hs, life, SessionEvent.exhausted?]

theorem handle_of_closed (hs : s.isOpen = false) (w : Wire) (now : Nat) (random : Float)
    (c : Command) :
    (s.handle w now random c).1.dialed = s.dialed ∧ (s.handle w now random c).2 = w := by
  cases hp : s.phase with
  | idle | connecting | connected | waiting => simp [isOpen, hp] at hs
  | givingUp | ended => cases c <;> simp [handle, hp]

/-- A closed session neither sends nor begins a handshake. -/
theorem respond_of_closed {w w' : Wire} {now : Nat} {random : Float} (hs : s.isOpen = false)
    (h : respond o now random s w = some (s', w')) : s'.dialed = s.dialed ∧ w'.sent = w.sent := by
  unfold respond at h
  split at h
  · rename_i c
    have hc := handle_of_closed hs w now random c
    rw [Option.some.inj h] at hc
    exact ⟨hc.1, congrArg Wire.sent hc.2⟩
  · rename_i hp
    simp [isOpen, hp] at hs
  · rename_i hp
    simp [isOpen, hp] at hs
  · rename_i hp
    simp [isOpen, hp] at hs
  · rename_i hp
    simp [isOpen, hp] at hs
  · rw [tick_isOpen h] at hs
    cases hs
  · obtain ⟨s₁, hsig, he⟩ := Option.map_eq_some_iff.mp h
    obtain ⟨rfl, rfl⟩ := Prod.mk.inj he
    exact ⟨congrArg Course.dialed (signal_course hsig), rfl⟩
  · obtain ⟨rfl, rfl⟩ := Prod.mk.inj (Option.some.inj h)
    exact ⟨rfl, rfl⟩
  · obtain ⟨rfl, rfl⟩ := Prod.mk.inj (Option.some.inj h)
    exact ⟨rfl, rfl⟩
  · obtain ⟨rfl, rfl⟩ := Prod.mk.inj (Option.some.inj h)
    exact ⟨rfl, rfl⟩
  · cases h

/-- The life of a session, whatever it is asked and whatever becomes of its connections. -/
theorem lifecycle_of_reachable {config : SessionConfig} {t : Observed Life}
    (h : life.Reachable config t) : Lifecycle config t := by
  have hl := Lived.of_reachable h
  constructor
  · exact hl.orderly.path
  · exact hl.orderly.last
  · intro before after hk
    exact hl.orderly.closed_last hk
  · have hattempt := hl.attempt_le
    have hle := Nat.le_trans hl.dials_le (SessionPhase.handshakes_le _ _)
    omega
  · exact hl.attempt_le
  · exact hl.ending_iff
  · exact hl.signals_cases
  · intro o now random
    unfold Observer.step
    split
    · rename_i s w hr
      intro hne
      by_contra hs
      exact hne (hl.signals_eq_of_respond hr hs)
    · exact fun hne => absurd rfl hne
  · exact hl.signals_of_ended
  · intro he hp hw hroom now random
    obtain ⟨hgiving, hnone⟩ := hl.silent_of_not_ended he hp
    rw [step_signal now random hgiving hw hroom, hnone]
    rfl
  · intro hg
    have hs := hl.closed_of_granted hg
    refine ⟨?_, (hl.closing hs).1, fun t' hlater => ?_⟩
    · exact hl.state_eq.trans (state_eq_closed hs)
    · have hkept := hlater.keeps (P := fun t' => t'.session.isOpen = false ∧
          t'.session.dialed = t.session.dialed ∧ t'.wire.sent = t.wire.sent) ⟨hs, rfl, rfl⟩ ?_
      · exact hkept.2
      · rintro t₁ o now random s w ⟨hs₁, hd, hsent⟩ hr
        have hquiet := respond_of_closed hs₁ hr
        refine ⟨?_, hquiet.1.trans hd, hquiet.2.trans hsent⟩
        rw [← Bool.not_eq_true] at hs₁ ⊢
        exact fun ho => hs₁ (isOpen_of_respond hr ho)

/-- A session that loses its connection, tries again in vain and gives up, and is then asked to
close. -/
theorem lifecycle_of_lost :
    let config : SessionConfig :=
      { url := "ws://localhost", sessionId := "s", backoff := { maxAttempts := 1 } }
    let t₁ := life.follow 0 [(.request .connect, 0), (.accepted none, 1)] (life.start config)
    let t₂ := life.step (.broken hangUp) 2 0 t₁
    let t := life.follow 0 [(.clock, 40000), (.refused (.connect "no route"), 40001),
      (.request (.close 7), 40002), (.signal, 40003)] t₂
    t₂.session.state = .reconnecting ∧ life.Reachable config t ∧
      t.session.passed = [.connecting, .connected, .disconnected, .reconnecting, .connecting,
        .disconnected, .closed] ∧
      t.session.dialed.length = 2 ∧ t.notes.signals = [1] ∧ t.session.granted = [7] ∧
      Lifecycle config t := by
  intro config t₁ t₂ t
  have hreach : life.Reachable config t :=
    ((Observer.later_follow ..).step _ _ _).trans (Observer.later_follow ..)
  have hcon : t₁.session.isConnected = true := by decide +kernel
  have hmore : t₁.session.backoff.exhausted = false := by decide +kernel
  obtain ⟨retryAt, hle, hwait⟩ := Observer.exists_waiting_step_broken life hangUp 2 0 hcon hmore
  -- Which delay was drawn is not known, so the wait for it cannot be computed.
  have hdue : retryAt ≤ 40000 := Nat.le_trans hle (by decide +kernel)
  have ht : t = _ := Observer.follow_clock_of_waiting hwait hdue _
  have hend : t.session.passed = [.connecting, .connected, .disconnected, .reconnecting,
        .connecting, .disconnected, .closed] ∧
      t.session.dialed.length = 2 ∧ t.notes.signals = [1] ∧ t.session.granted = [7] := by
    rw [ht]
    decide +kernel
  obtain ⟨hpassed, hdialed, hsignals, hgranted⟩ := hend
  exact ⟨by decide +kernel, hreach, hpassed, hdialed, hsignals, hgranted,
    lifecycle_of_reachable hreach⟩

end Session

end Fanout
