import Fanout.Client.Session
import Mathlib.Tactic.SplitIfs

/-!
Everything that can happen to a client session: requests, the outcome of a handshake, what comes
from the server, a connection that breaks, the clock, and an owner who takes events.
-/
namespace Fanout.Session

inductive Occasion where
  | request (c : Command)
  /-- The handshake succeeds. The connection takes as many sends as given. -/
  | accepted (sends : Option Nat)
  | refused (e : TransportError)
  /-- A text comes from the server. -/
  | arrived (text : String)
  | broken (e : TransportError)
  | clock
  /-- There is room for the last word. -/
  | signal
  /-- From now on the connection takes only so many sends. -/
  | failing (sends : Option Nat)
  /-- The owner takes so many events. -/
  | taken (n : Nat)
  /-- Nobody takes events any more. -/
  | unwatched

/-- What the session does on an occasion. None if it cannot arise now. -/
def respond (o : Occasion) (now : Nat) (random : Float) (s : Session) (w : Wire) :
    Option (Session × Wire) :=
  match o, s.phase with
  | .request c, _ => some (s.handle w now random c)
  | .accepted sends, .connecting _ => some (s.connected (w.renew sends) now random)
  | .refused e, .connecting _ => some (s.connectFailed now random e, w)
  | .arrived text, .connected h => some (s.receive h now text, w)
  | .broken e, .connected _ => some (s.lost now random e, w)
  | .clock, _ => s.tick w now random
  | .signal, _ => s.signal.map fun s => (s, w)
  | .failing sends, _ => some (s, { w with accepts := sends })
  | .taken n, _ => some ({ s with events := s.events.drop n }, w)
  | .unwatched, _ => some ({ s with events := [], watched := false }, w)
  | _, _ => none

@[simp] theorem emit_buffer (s : Session) (e : SessionEvent) : (s.emit e).buffer = s.buffer := by
  unfold emit
  split_ifs <;> rfl

@[simp] theorem emit_phase (s : Session) (e : SessionEvent) : (s.emit e).phase = s.phase := by
  unfold emit
  split_ifs <;> rfl

@[simp] theorem setState_buffer (s : Session) (next : SessionState) :
    (s.setState next).buffer = s.buffer := by
  unfold setState
  split_ifs <;> simp

@[simp] theorem log_buffer (s : Session) (r : LogRecord) : (s.log r).buffer = s.buffer := rfl

@[simp] theorem log_phase (s : Session) (r : LogRecord) : (s.log r).phase = s.phase := rfl

@[simp] theorem keep_buffer (s : Session) (text : String) :
    (s.keep text).buffer = (s.buffer.push text).2 := by
  unfold keep
  split <;> rename_i h <;> simp [h]

@[simp] theorem keep_phase (s : Session) (text : String) : (s.keep text).phase = s.phase := by
  unfold keep
  split <;> simp

@[simp] theorem want_buffer (s : Session) (f : Filter) : (s.want f).2.buffer = s.buffer := by
  unfold want
  split_ifs <;> rfl

@[simp] theorem want_phase (s : Session) (f : Filter) : (s.want f).2.phase = s.phase := by
  unfold want
  split_ifs <;> rfl

@[simp] theorem unwant_buffer (s : Session) (f : Filter) : (s.unwant f).2.buffer = s.buffer := by
  unfold unwant
  split_ifs <;> rfl

@[simp] theorem unwant_phase (s : Session) (f : Filter) : (s.unwant f).2.phase = s.phase := by
  unfold unwant
  split_ifs <;> rfl

@[simp] theorem finish_phase (s : Session) (ticket : Option Nat) :
    (s.finish ticket).phase = .ended := rfl

/-- After a failure the session either waits, with everything kept, or has given up. -/
theorem retryLater_cases (s : Session) (now : Nat) (random : Float) :
    (∃ t, (s.retryLater now random).phase = .waiting t ∧
      (s.retryLater now random).buffer = s.buffer) ∨
    ∃ n, (s.retryLater now random).phase = .givingUp n := by
  unfold retryLater
  dsimp only
  split_ifs
  · exact .inr ⟨_, rfl⟩
  · exact .inl ⟨_, rfl, by simp⟩

theorem retryLater_of_isOpen {s : Session} {now : Nat} {random : Float}
    (h : (s.retryLater now random).isOpen) :
    (s.retryLater now random).isConnected = false ∧
      (s.retryLater now random).buffer = s.buffer := by
  obtain ⟨t, ht, hb⟩ | ⟨n, hn⟩ := retryLater_cases s now random
  · exact ⟨by simp [isConnected, ht], hb⟩
  · simp [isOpen, hn] at h

theorem lost_of_isOpen {s : Session} {now : Nat} {random : Float} {e : TransportError}
    (h : (s.lost now random e).isOpen) :
    (s.lost now random e).isConnected = false ∧ (s.lost now random e).buffer = s.buffer :=
  retryLater_of_isOpen h

theorem handle_closed {s : Session} (hs : s.isOpen = false) (w : Wire) (now : Nat) (random : Float)
    (c : Command) : (s.handle w now random c).1.phase = s.phase := by
  cases hp : s.phase with
  | idle | connecting | connected | waiting => simp [isOpen, hp] at hs
  | givingUp | ended => cases c <;> simp [handle, hp]

theorem signal_phase {s s' : Session} (h : s.signal = some s') : s'.phase = .ended := by
  unfold signal at h
  split at h
  · split_ifs at h
    rw [← Option.some.inj h]
  · cases h

theorem tick_isOpen {s : Session} {w : Wire} {now : Nat} {random : Float} {x : Session × Wire}
    (h : s.tick w now random = some x) : s.isOpen := by
  unfold tick at h
  split at h
  · rename_i hp
    simp [isOpen, hp]
  · rename_i hp
    simp [isOpen, hp]
  · rename_i hp
    simp [isOpen, hp]
  · cases h

/-- A closed session stays closed. -/
theorem isOpen_of_respond {o : Occasion} {s s' : Session} {w w' : Wire} {now : Nat}
    {random : Float} (h : respond o now random s w = some (s', w')) (ho : s'.isOpen) :
    s.isOpen := by
  unfold respond at h
  split at h
  · cases hs : s.isOpen with
    | true => rfl
    | false =>
      have hs' : (s.handle w now random _).1 = s' := congrArg Prod.fst (Option.some.inj h)
      rw [← hs', isOpen, handle_closed hs, ← isOpen, hs] at ho
      exact ho
  · rename_i hp
    simp [isOpen, hp]
  · rename_i hp
    simp [isOpen, hp]
  · rename_i hp
    simp [isOpen, hp]
  · rename_i hp
    simp [isOpen, hp]
  · exact tick_isOpen h
  · obtain ⟨s₁, hs, he⟩ := Option.map_eq_some_iff.mp h
    obtain ⟨rfl, rfl⟩ := Prod.mk.inj he
    simp [isOpen, signal_phase hs] at ho
  · obtain ⟨rfl, rfl⟩ := Prod.mk.inj (Option.some.inj h)
    exact ho
  · obtain ⟨rfl, rfl⟩ := Prod.mk.inj (Option.some.inj h)
    exact ho
  · obtain ⟨rfl, rfl⟩ := Prod.mk.inj (Option.some.inj h)
    exact ho
  · cases h

end Fanout.Session
