import Fanout.Proofs.Client.Observer
import Mathlib.Data.List.Chain

/-! The course of a session: the states that it passes and what an occasion can do to them. -/
namespace Fanout

/-- The attempts made in vain, if that is what an event says. -/
def SessionEvent.exhausted? : SessionEvent → Option Nat
  | .exhausted attempts => some attempts
  | _ => none

namespace Session

/-- The part of a session that tells where it stands in its life. -/
structure Course where
  state : SessionState
  passed : List SessionState
  backoff : Backoff
  dialed : List String
  granted : List Nat

def course (s : Session) : Course :=
  { state := s.state, passed := s.passed, backoff := s.backoff, dialed := s.dialed,
    granted := s.granted }

namespace Course

def enter (k : Course) (next : SessionState) : Course :=
  if k.state = next then k else { k with state := next, passed := k.passed ++ [next] }

def dial (k : Course) (address : String) : Course :=
  { k.enter .connecting with dialed := k.dialed ++ [address] }

def accept (k : Course) : Course := enter { k with backoff := k.backoff.reset } .connected

def retry (k : Course) (delay : Nat) : Course :=
  { (k.enter .disconnected).enter .reconnecting with
    backoff := { k.backoff with attempt := k.backoff.attempt + 1, lastDelayMs := delay } }

def giveUp (k : Course) : Course := (k.enter .disconnected).enter .closed

def grant (k : Course) (tickets : List Nat) : Course := { k with granted := k.granted ++ tickets }

variable (k : Course) (next : SessionState)

theorem grant_nil : k.grant [] = k := by simp [grant]

@[simp] theorem enter_state : (k.enter next).state = next := by
  unfold enter
  split_ifs with h
  · exact h
  · rfl

@[simp] theorem enter_backoff : (k.enter next).backoff = k.backoff := by
  unfold enter
  split_ifs <;> rfl

@[simp] theorem enter_dialed : (k.enter next).dialed = k.dialed := by
  unfold enter
  split_ifs <;> rfl

@[simp] theorem enter_granted : (k.enter next).granted = k.granted := by
  unfold enter
  split_ifs <;> rfl

/-- Each state was entered from one that may become it. -/
structure Orderly (k : Course) : Prop where
  path : (SessionState.idle :: k.passed).IsChain fun a b => a.canBecome b = true
  last : (SessionState.idle :: k.passed).getLast? = some k.state

variable {k next}

theorem Orderly.enter (h : k.Orderly) (hn : k.state.canBecome next = true) :
    (k.enter next).Orderly := by
  unfold Course.enter
  split_ifs
  · exact h
  constructor
  · show (SessionState.idle :: (k.passed ++ [next])).IsChain _
    rw [← List.cons_append]
    refine h.path.append (.singleton next) fun a ha b hb => ?_
    rw [h.last] at ha
    obtain rfl := Option.some.inj ha
    obtain rfl := Option.some.inj hb
    exact hn
  · show (SessionState.idle :: (k.passed ++ [next])).getLast? = some next
    rw [← List.cons_append, List.getLast?_concat]

/-- Nothing follows the end. -/
theorem Orderly.closed_last (h : k.Orderly) {before after : List SessionState}
    (hk : SessionState.idle :: k.passed = before ++ .closed :: after) : after = [] := by
  cases after with
  | nil => rfl
  | cons next rest =>
    have hpath := h.path
    rw [hk, List.isChain_append_cons_cons] at hpath
    exact absurd hpath.2.1 (by simp [SessionState.canBecome])

end Course

@[simp] theorem emit_course (s : Session) (e : SessionEvent) : (s.emit e).course = s.course := by
  unfold emit
  split_ifs <;> rfl

@[simp] theorem log_course (s : Session) (r : LogRecord) : (s.log r).course = s.course := rfl

@[simp] theorem keep_course (s : Session) (text : String) : (s.keep text).course = s.course := by
  unfold keep
  split <;> rfl

@[simp] theorem want_course (s : Session) (f : Filter) : (s.want f).2.course = s.course := by
  unfold want
  split_ifs <;> rfl

@[simp] theorem unwant_course (s : Session) (f : Filter) : (s.unwant f).2.course = s.course := by
  unfold unwant
  split_ifs <;> rfl

@[simp] theorem setState_course (s : Session) (next : SessionState) :
    (s.setState next).course = s.course.enter next := by
  unfold setState Course.enter
  split_ifs with h h' h'
  · rfl
  · exact absurd h h'
  · exact absurd h' h
  · rw [emit_course]
    rfl

theorem setState_backoff (s : Session) (next : SessionState) :
    (s.setState next).backoff = s.backoff := by
  have h := congrArg Course.backoff (setState_course s next)
  rwa [Course.enter_backoff] at h

theorem finish_course (s : Session) (ticket : Option Nat) :
    (s.finish ticket).course = (s.course.enter .closed).grant ticket.toList := by
  have h := setState_course { s with buffer := s.buffer.clear } .closed
  unfold finish Course.grant
  rw [show s.course.enter .closed = _ from h.symm]
  rfl

theorem finish_messages (s : Session) (ticket : Option Nat) :
    (s.finish ticket).buffer.messages = [] := by
  simp [finish, Buffer.clear]

/-- Something may be told, but not the last word. -/
structure Tells (s s' : Session) : Prop where
  events : ∃ new, s'.events = s.events ++ new ∧ new.filterMap SessionEvent.exhausted? = []
  watched : s'.watched = s.watched

namespace Tells

variable {s s' s'' : Session}

theorem of_eq (he : s'.events = s.events) (hw : s'.watched = s.watched) : Tells s s' :=
  ⟨⟨[], by simpa using he, rfl⟩, hw⟩

theorem trans (h : Tells s s') (h' : Tells s' s'') : Tells s s'' := by
  obtain ⟨new, he, hn⟩ := h.events
  obtain ⟨new', he', hn'⟩ := h'.events
  refine ⟨⟨new ++ new', ?_, ?_⟩, h'.watched.trans h.watched⟩
  · rw [he', he, List.append_assoc]
  · rw [List.filterMap_append, hn, hn']
    rfl

theorem emit (h : Tells s s') {e : SessionEvent} (he : e.exhausted? = none) :
    Tells s (s'.emit e) := by
  refine h.trans ?_
  unfold Session.emit
  split_ifs
  · exact ⟨⟨[e], rfl, by simp [he]⟩, rfl⟩
  · exact .of_eq rfl rfl

theorem keep (s : Session) (text : String) : Tells s (s.keep text) := by
  unfold Session.keep
  split <;> exact .of_eq rfl rfl

theorem want (s : Session) (f : Filter) : Tells s (s.want f).2 := by
  unfold Session.want
  split_ifs <;> exact .of_eq rfl rfl

theorem unwant (s : Session) (f : Filter) : Tells s (s.unwant f).2 := by
  unfold Session.unwant
  split_ifs <;> exact .of_eq rfl rfl

theorem setState (h : Tells s s') (next : SessionState) : Tells s (s'.setState next) := by
  unfold Session.setState
  split_ifs
  · exact h
  · refine .emit ?_ rfl
    exact ⟨h.events, h.watched⟩

theorem finish (h : Tells s s') (ticket : Option Nat) : Tells s (s'.finish ticket) := by
  have hclear : Tells s { s' with buffer := s'.buffer.clear } := ⟨h.events, h.watched⟩
  have hclosed := hclear.setState .closed
  exact ⟨hclosed.events, hclosed.watched⟩

theorem giveUp (h : Tells s s') : Tells s s'.giveUp := by
  have hlog (r : LogRecord) : Tells s (s'.log r) := ⟨h.events, h.watched⟩
  unfold Session.giveUp
  exact ⟨((hlog _).finish none).events, ((hlog _).finish none).watched⟩

theorem retryLater (h : Tells s s') (now : Nat) (random : Float) :
    Tells s (s'.retryLater now random) := by
  have hdown := h.setState .disconnected
  unfold Session.retryLater
  dsimp only
  split_ifs
  · exact hdown.giveUp
  · have hwait := hdown.setState .reconnecting
    exact ⟨hwait.events, hwait.watched⟩

theorem dial (s : Session) (now : Nat) : Tells s (s.dial now) := by
  have h := (of_eq rfl rfl : Tells s s).setState .connecting
  exact ⟨h.events, h.watched⟩

theorem receive (s : Session) (h : Heartbeat) (now : Nat) (text : String) :
    Tells s (s.receive h now text) := by
  unfold Session.receive
  split
  · rename_i f _
    cases f with
    | event | ack | error =>
      unfold receiveFrame
      refine .emit ?_ rfl
      exact .of_eq rfl rfl
    | pong id =>
      simp only [receiveFrame, answerPing]
      split
      · exact .of_eq rfl rfl
      · refine .emit ?_ rfl
        exact .of_eq rfl rfl
  · exact .of_eq rfl rfl

end Tells

/-- The owner does not hear the last word, and nobody begins to listen. -/
structure Mute (s s' : Session) : Prop where
  signals : (s'.events.drop s.events.length).filterMap SessionEvent.exhausted? = []
  watched : s'.watched = true → s.watched = true

theorem Tells.mute {s s' : Session} (h : Tells s s') : Mute s s' := by
  obtain ⟨new, he, hn⟩ := h.events
  refine ⟨?_, fun hw => h.watched.symm.trans hw⟩
  rw [he, List.drop_left]
  exact hn

/-- What becomes of a session whose handshake or connection failed. -/
inductive Failed (k : Course) (s' : Session) : Prop where
  | waits (delay retryAt : Nat) (hb : k.backoff.exhausted = false) (hk : s'.course = k.retry delay)
      (hp : s'.phase = .waiting retryAt)
  | givesUp (hb : k.backoff.exhausted = true) (hk : s'.course = k.giveUp)
      (hp : s'.phase = .givingUp k.backoff.attempt) (hm : s'.buffer.messages = [])

theorem retryLater_failed (s : Session) (now : Nat) (random : Float) :
    Failed s.course (s.retryLater now random) := by
  have hb := setState_backoff s .disconnected
  unfold retryLater
  dsimp only
  by_cases h : (s.setState .disconnected).backoff.exhausted = true
  · rw [if_pos h]
    rw [hb] at h
    refine .givesUp h ?_ ?_ ?_
    · show (finish _ none).course = _
      rw [finish_course, log_course, setState_course]
      exact Course.grant_nil _
    · show SessionPhase.givingUp (s.setState .disconnected).backoff.attempt = _
      rw [hb]
      rfl
    · exact finish_messages _ none
  · rw [if_neg h]
    rw [hb] at h
    refine .waits (s.backoff.next random).1 _ (Bool.eq_false_iff.mpr h) ?_ rfl
    have hk : ((s.setState .disconnected).setState .reconnecting).course =
        (s.course.enter .disconnected).enter .reconnecting := by simp
    unfold Course.retry
    rw [← hk, setState_backoff, hb]
    rfl

theorem retryLater_phase {s : Session} (h : s.backoff.exhausted = false) (now : Nat)
    (random : Float) :
    (s.retryLater now random).phase = .waiting (now + (s.backoff.next random).1) := by
  simp [retryLater, setState_backoff, h]

/-- Whether the session is asked to end, or nobody is left to ask for anything. -/
def Occasion.isFarewell : Occasion → Bool
  | .request (.close _) | .request .orphaned => true
  | _ => false

inductive Turn (o : Occasion) (s s' : Session) : Prop where
  | still (ho : o.isHandshake = false) (hk : s'.course = s.course)
      (hp : s'.phase = s.phase ∨ s.isConnected ∧ s'.isConnected)
      (hb : s.isOpen = false → s'.buffer = s.buffer) (hq : Mute s s')
  | dials (address : String) (ho : o.isHandshake = false)
      (hs : s.phase = .idle ∨ ∃ t, s.phase = .waiting t) (hk : s'.course = s.course.dial address)
      (hp : ∃ t, s'.phase = .connecting t) (hq : Mute s s')
  | fails (ho : o.isHandshake = false) (hf : o.isFarewell = false)
      (hs : (∃ t, s.phase = .connecting t) ∨ s.isConnected) (h : Failed s.course s')
      (hq : Mute s s')
  | accepts (ho : o.isHandshake = true) (hs : ∃ t, s.phase = .connecting t)
      (h : s'.course = s.course.accept ∧ s'.isConnected ∨ Failed s.course.accept s')
      (hq : Mute s s')
  | closes (ticket : Option Nat) (ho : o.isFarewell = true) (hs : s.isOpen)
      (hk : s'.course = (s.course.enter .closed).grant ticket.toList) (hp : s'.phase = .ended)
      (hm : s'.buffer.messages = []) (hq : Mute s s')
  | grants (ticket : Nat) (ho : o.isHandshake = false) (hs : s.isOpen = false)
      (hk : s'.course = s.course.grant [ticket]) (hp : s'.phase = s.phase)
      (hb : s'.buffer = s.buffer) (hq : Mute s s')
  | signals (attempts : Nat) (ho : o.isHandshake = false) (hs : s.phase = .givingUp attempts)
      (hk : s'.course = s.course) (hp : s'.phase = .ended) (hb : s'.buffer = s.buffer)
      (hw : s'.watched = s.watched)
      (he : s'.events = if s.watched then s.events ++ [.exhausted attempts] else s.events)

variable {o : Occasion} {s s' : Session}

theorem retryLater_turn (now : Nat) (random : Float) (ho : o.isHandshake = false)
    (hf : o.isFarewell = false) (hs : (∃ t, s.phase = .connecting t) ∨ s.isConnected)
    (hk : s'.course = s.course) (hq : Tells s s') : Turn o s (s'.retryLater now random) := by
  refine .fails ho hf hs ?_ (hq.retryLater now random).mute
  rw [← hk]
  exact retryLater_failed s' now random

theorem finish_turn (ticket : Option Nat) (ho : o.isFarewell = true) (hs : s.isOpen)
    (hk : s'.course = s.course) (hq : Tells s s') : Turn o s (s'.finish ticket) := by
  refine .closes ticket ho hs ?_ rfl (finish_messages s' ticket) (hq.finish ticket).mute
  rw [finish_course, hk]

theorem dial_turn (now : Nat) (ho : o.isHandshake = false)
    (hs : s.phase = .idle ∨ ∃ t, s.phase = .waiting t) : Turn o s (s.dial now) := by
  have hk := setState_course s .connecting
  have hd : (s.setState .connecting).course.dialed = s.course.dialed := by simp
  refine .dials (s.setState .connecting).config.connectUrl ho hs ?_ ⟨_, rfl⟩ (Tells.dial s now).mute
  unfold Course.dial
  rw [← hk, ← hd]
  rfl

theorem still_turn (ho : o.isHandshake = false) (hs : s.isOpen) (hk : s'.course = s.course)
    (hp : s'.phase = s.phase ∨ s.isConnected ∧ s'.isConnected) (hq : Tells s s') : Turn o s s' :=
  .still ho hk hp (by simp [hs]) hq.mute

theorem offline_turn (c : Command) (hs : s.isOpen) : Turn (.request c) s (s.offline c) := by
  have told : Tells s s := .of_eq rfl rfl
  cases c with
  | connect => exact still_turn rfl hs rfl (.inl rfl) told
  | send text => exact still_turn rfl hs (keep_course s text) (.inl (keep_phase s text)) (.keep s text)
  | subscribe f => exact still_turn rfl hs (want_course s f) (.inl (want_phase s f)) (.want s f)
  | unsubscribe f =>
    exact still_turn rfl hs (unwant_course s f) (.inl (unwant_phase s f)) (.unwant s f)
  | close ticket => exact finish_turn (some ticket) rfl hs rfl told
  | orphaned => exact finish_turn none rfl hs rfl told

theorem isOpen_of_isConnected (h : s.isConnected) : s.isOpen := by
  unfold isConnected at h
  unfold isOpen
  split at h
  · rename_i hp
    simp [hp]
  · cases h

theorem sendFrame_turn (w : Wire) (now : Nat) (random : Float) (f : ClientFrame)
    (ho : o.isHandshake = false) (hf : o.isFarewell = false) (hs : s.isConnected)
    (hs' : s'.isConnected) (hk : s'.course = s.course) (hq : Tells s s') :
    Turn o s (s'.sendFrame w now random f).1 := by
  unfold sendFrame
  split
  · exact still_turn ho (isOpen_of_isConnected hs) hk (.inr ⟨hs, hs'⟩) hq
  · exact retryLater_turn now random ho hf (.inr hs) hk ⟨hq.events, hq.watched⟩

theorem online_turn (w : Wire) (now : Nat) (random : Float) (c : Command) (hs : s.isConnected) :
    Turn (.request c) s (s.online w now random c).1 := by
  have told : Tells s s := .of_eq rfl rfl
  have hopen := isOpen_of_isConnected hs
  cases c with
  | connect => exact still_turn rfl hopen rfl (.inl rfl) told
  | send text =>
    unfold online
    dsimp only
    split
    · exact still_turn rfl hopen rfl (.inl rfl) told
    · exact retryLater_turn now random rfl rfl (.inr hs) rfl (.of_eq rfl rfl)
  | subscribe f =>
    have hc : (s.want f).2.isConnected := by simpa [isConnected] using hs
    unfold online
    dsimp only
    split
    · rename_i s₁ h
      obtain rfl : (s.want f).2 = s₁ := congrArg Prod.snd h
      exact sendFrame_turn w now random _ rfl rfl hs hc (want_course s f) (.want s f)
    · rename_i s₁ h
      obtain rfl : (s.want f).2 = s₁ := congrArg Prod.snd h
      exact still_turn rfl hopen (want_course s f) (.inl (want_phase s f)) (.want s f)
  | unsubscribe f =>
    have hc : (s.unwant f).2.isConnected := by simpa [isConnected] using hs
    unfold online
    dsimp only
    split
    · rename_i s₁ h
      obtain rfl : (s.unwant f).2 = s₁ := congrArg Prod.snd h
      exact sendFrame_turn w now random _ rfl rfl hs hc (unwant_course s f) (.unwant s f)
    · rename_i s₁ h
      obtain rfl : (s.unwant f).2 = s₁ := congrArg Prod.snd h
      exact still_turn rfl hopen (unwant_course s f) (.inl (unwant_phase s f)) (.unwant s f)
  | close ticket => exact finish_turn (some ticket) rfl hopen rfl (.of_eq rfl rfl)
  | orphaned => exact finish_turn none rfl hopen rfl (.of_eq rfl rfl)

theorem handle_turn (w : Wire) (now : Nat) (random : Float) (c : Command) :
    Turn (.request c) s (s.handle w now random c).1 := by
  have hmute : Mute s s := (Tells.of_eq rfl rfl).mute
  cases hp : s.phase with
  | idle =>
    cases c with
    | connect =>
      simp only [handle, hp]
      exact dial_turn now rfl (.inl hp)
    | send | subscribe | unsubscribe | close | orphaned =>
      simp only [handle, hp]
      exact offline_turn _ (by simp [isOpen, hp])
  | connecting | waiting =>
    simp only [handle, hp]
    exact offline_turn c (by simp [isOpen, hp])
  | connected =>
    simp only [handle, hp]
    exact online_turn w now random c (by simp [isConnected, hp])
  | givingUp | ended =>
    have hclosed : s.isOpen = false := by simp [isOpen, hp]
    cases c with
    | close ticket =>
      simp only [handle, hp]
      exact .grants ticket rfl hclosed rfl hp.symm rfl ⟨hmute.signals, hmute.watched⟩
    | connect | send | subscribe | unsubscribe | orphaned =>
      simp only [handle, hp]
      exact .still rfl rfl (.inl rfl) (fun _ => rfl) hmute

theorem connected_turn (w : Wire) (now : Nat) (random : Float) (ho : o.isHandshake = true)
    (hs : ∃ t, s.phase = .connecting t) : Turn o s (s.connected w now random).1 := by
  have hk := setState_course { s with backoff := s.backoff.reset } .connected
  have hq : Tells s (setState { s with backoff := s.backoff.reset } .connected) := by
    apply Tells.setState
    exact .of_eq rfl rfl
  have hlost : ∀ s₁ : Session, s₁.course = s.course.accept → Tells s s₁ →
      Turn o s (s₁.lost now random sendFailure) := by
    intro s₁ hk₁ hq₁
    have hlog (r : LogRecord) : Tells s (s₁.log r) := ⟨hq₁.events, hq₁.watched⟩
    refine .accepts ho hs (.inr ?_) ((hlog _).retryLater now random).mute
    rw [← hk₁]
    exact retryLater_failed (s₁.log _) now random
  unfold connected
  dsimp only
  split
  · exact hlost _ hk hq
  · split
    · exact hlost _ hk ⟨hq.events, hq.watched⟩
    · exact .accepts ho hs (.inl ⟨hk, rfl⟩) (Tells.mute ⟨hq.events, hq.watched⟩)

theorem receive_course (s : Session) (h : Heartbeat) (now : Nat) (text : String) :
    (s.receive h now text).course = s.course := by
  unfold receive
  split
  · rename_i f _
    cases f with
    | event | ack | error => simp [receiveFrame]
    | pong id =>
      simp only [receiveFrame, answerPing]
      split
      · rfl
      · rw [emit_course]
        rfl
  · rfl

theorem receive_isConnected (h : Heartbeat) (now : Nat) (text : String) (hs : s.isConnected) :
    (s.receive h now text).isConnected := by
  unfold receive
  split
  · rename_i f _
    cases f with
    | event | ack | error => simpa [receiveFrame, isConnected] using hs
    | pong id =>
      simp only [receiveFrame, answerPing]
      split
      · exact hs
      · simp [isConnected]
  · exact hs

theorem tick_turn {w w' : Wire} {now : Nat} {random : Float}
    (h : s.tick w now random = some (s', w')) : Turn .clock s s' := by
  unfold tick at h
  split at h
  · rename_i t hp
    split_ifs at h
    obtain rfl := congrArg Prod.fst (Option.some.inj h)
    exact retryLater_turn now random rfl rfl (.inl ⟨t, hp⟩) rfl (.of_eq rfl rfl)
  · rename_i t hp
    split_ifs at h
    obtain rfl := congrArg Prod.fst (Option.some.inj h)
    exact dial_turn now rfl (.inr ⟨t, hp⟩)
  · rename_i b hp
    have hs : s.isConnected := by simp [isConnected, hp]
    split_ifs at h
    · obtain rfl := congrArg Prod.fst (Option.some.inj h)
      unfold expirePing
      dsimp only
      split_ifs
      · exact retryLater_turn now random rfl rfl (.inr hs) rfl (.of_eq rfl rfl)
      · exact still_turn rfl (isOpen_of_isConnected hs) rfl (.inr ⟨hs, rfl⟩) (.of_eq rfl rfl)
    · obtain rfl := congrArg Prod.fst (Option.some.inj h)
      exact sendFrame_turn w now random _ rfl rfl hs rfl rfl (.of_eq rfl rfl)
  · cases h

theorem signal_course (h : s.signal = some s') : s'.course = s.course := by
  unfold signal at h
  split at h
  · split_ifs at h
    obtain rfl := Option.some.inj h
    exact emit_course s _
  · cases h

theorem signal_turn (h : s.signal = some s') : Turn .signal s s' := by
  have hk := signal_course h
  unfold signal at h
  split at h
  · rename_i attempts hp
    split_ifs at h with hroom
    obtain rfl := Option.some.inj h
    refine .signals attempts rfl hp hk rfl ?_ ?_ ?_
    · exact emit_buffer s _
    · show (s.emit _).watched = s.watched
      unfold emit
      split_ifs <;> rfl
    · show (s.emit _).events = _
      unfold emit
      cases hw : s.watched with
      | false => simp
      | true =>
        rw [hw] at hroom
        simp at hroom
        simp [hroom]
  · cases h

/-- Everything that can happen to a session is a turn of its course. -/
theorem respond_turn {w w' : Wire} {now : Nat} {random : Float}
    (h : respond o now random s w = some (s', w')) : Turn o s s' := by
  unfold respond at h
  split at h
  · obtain rfl := congrArg Prod.fst (Option.some.inj h)
    exact handle_turn w now random _
  · rename_i t hp
    obtain rfl := congrArg Prod.fst (Option.some.inj h)
    exact connected_turn _ now random rfl ⟨t, hp⟩
  · rename_i t hp
    obtain rfl := congrArg Prod.fst (Option.some.inj h)
    exact retryLater_turn now random rfl rfl (.inl ⟨t, hp⟩) rfl (.of_eq rfl rfl)
  · rename_i text b hp
    have hs : s.isConnected := by simp [isConnected, hp]
    obtain rfl := congrArg Prod.fst (Option.some.inj h)
    exact still_turn rfl (isOpen_of_isConnected hs) (receive_course s b now text)
      (.inr ⟨hs, receive_isConnected b now text hs⟩) (.receive s b now text)
  · rename_i e b hp
    obtain rfl := congrArg Prod.fst (Option.some.inj h)
    exact retryLater_turn now random rfl rfl (.inr (by simp [isConnected, hp])) rfl (.of_eq rfl rfl)
  · exact tick_turn h
  · obtain ⟨s₁, hs, he⟩ := Option.map_eq_some_iff.mp h
    obtain rfl := congrArg Prod.fst he
    exact signal_turn hs
  · obtain rfl := congrArg Prod.fst (Option.some.inj h)
    exact .still rfl rfl (.inl rfl) (fun _ => rfl) (Tells.of_eq rfl rfl).mute
  · rename_i n
    obtain rfl := congrArg Prod.fst (Option.some.inj h)
    refine .still rfl rfl (.inl rfl) (fun _ => rfl) ⟨?_, id⟩
    -- Fewer events wait than before.
    rw [List.drop_of_length_le (by simp)]
    rfl
  · obtain rfl := congrArg Prod.fst (Option.some.inj h)
    exact .still rfl rfl (.inl rfl) (fun _ => rfl) ⟨by simp, by simp⟩
  · cases h

namespace Observer

variable {ν : Type} {ob : Observer ν} {t : Observed ν} {now : Nat} {random : Float}

/-- However long the delay is that was drawn, it is no longer than the longest. -/
theorem exists_waiting_step_broken (ob : Observer ν) (e : TransportError) (now : Nat)
    (random : Float) (hcon : t.session.isConnected = true)
    (hmore : t.session.backoff.exhausted = false) :
    ∃ retryAt ≤ now + t.session.backoff.config.maxDelayMs,
      (ob.step (.broken e) now random t).session.phase = .waiting retryAt := by
  refine ⟨now + (t.session.backoff.next random).1, ?_, ?_⟩
  · exact Nat.add_le_add_left (Nat.min_le_right _ _) now
  · unfold isConnected at hcon
    split at hcon
    · rename_i hphase
      simp only [Observer.step, respond, hphase]
      exact retryLater_phase (s := t.session.log _) hmore now random
    · cases hcon

theorem follow_clock_of_waiting {retryAt : Nat} (h : t.session.phase = .waiting retryAt)
    (hdue : retryAt ≤ now) (os : List (Occasion × Nat)) :
    ob.follow random ((.clock, now) :: os) t = ob.follow random os
      ⟨t.session.dial now, t.wire, ob.note .clock t.session (t.session.dial now) t.notes⟩ := by
  simp [follow, Observer.step, respond, tick, h, hdue]

end Observer

end Session

end Fanout
