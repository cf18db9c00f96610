import Fanout.Proofs.Client.Wishes

/-!
What one event does to the heartbeat of a session: a ping is due, the oldest ping has waited too long,
or something else happens. On a connection these come in any order.
-/
namespace Fanout

def Payload.ping? : Payload → Option UInt64
  | .frame (.ping id) => some id
  | _ => none

theorem Payload.ping?_of_request? {p : Payload} (h : p.request?.isSome) : p.ping? = none := by
  unfold Payload.request? at h
  split at h
  · rfl
  · cases h

def Wire.pings (w : Wire) : List UInt64 := w.current.filterMap Payload.ping?

theorem Wire.Sends.pings {w w' : Wire} {new : List Payload} (h : Wire.Sends w w' new) :
    w'.pings = w.pings ++ new.filterMap Payload.ping? := by
  rw [Wire.pings, h.current, List.filterMap_append, Wire.pings]

namespace Session

open Wire (Sends)

def Occasion.isClock : Occasion → Bool
  | .clock => true
  | _ => false

theorem Occasion.eq_clock {o : Occasion} (h : o.isClock = true) : o = .clock := by
  cases o with
  | clock => rfl
  | request | accepted | refused | arrived | broken | signal | failing | taken | unwatched => cases h

def Occasion.pong? : Occasion → Option UInt64
  | .arrived text =>
    match ServerFrame.parse text with
    | .ok (.pong id) => some id
    | _ => none
  | _ => none

inductive Beat where
  | ping
  /-- The oldest ping without an answer has waited too long. -/
  | expire
  | other (o : Occasion)

/-- What the session does. The clock alone does nothing to a connection but these two things, in any
order when both are due. -/
def beat (b : Beat) (now : Nat) (random : Float) (s : Session) (w : Wire) :
    Option (Session × Wire) :=
  match b with
  | .ping =>
    match s.phase with
    | .connected h => if h.nextPing ≤ now then some (s.sendPing h w now random) else none
    | _ => none
  | .expire =>
    match s.phase with
    | .connected h =>
      if (s.pongDeadline? h).any (· ≤ now) then some (s.expirePing h now random, w) else none
    | _ => none
  | .other o => if o.isClock && s.isConnected then none else respond o now random s w

variable {s s' : Session} {w w' : Wire} {now : Nat} {random : Float}

/-- Everything that can happen to a session is a beat. -/
theorem exists_beat_of_respond {o : Occasion} {x : Session × Wire}
    (h : respond o now random s w = some x) : ∃ b, beat b now random s w = some x := by
  by_cases ho : (o.isClock && s.isConnected) = true
  · rw [Bool.and_eq_true] at ho
    obtain ⟨hclock, hs⟩ := ho
    obtain rfl := Occasion.eq_clock hclock
    cases hp : s.phase with
    | connected hb =>
      have htick : s.tick w now random = some x := h
      simp only [tick, hp] at htick
      by_cases hdue : (s.pongDeadline? hb).any (· ≤ now) = true
      · rw [if_pos hdue] at htick
        exact ⟨.expire, by simp only [beat, hp, if_pos hdue, htick]⟩
      · rw [if_neg hdue] at htick
        exact ⟨.ping, by simp only [beat, hp, htick]⟩
    | idle | connecting | waiting | givingUp | ended => simp [isConnected, hp] at hs
  · exact ⟨.other o, by simp only [beat, if_neg ho, h]⟩

def tempo (s : Session) : SessionConfig × UInt64 := (s.config, s.lastPing)

@[simp] theorem emit_tempo (s : Session) (e : SessionEvent) : (s.emit e).tempo = s.tempo := by
  unfold emit
  split_ifs <;> rfl

@[simp] theorem setState_tempo (s : Session) (next : SessionState) :
    (s.setState next).tempo = s.tempo := by
  unfold setState
  split_ifs
  · rfl
  · rw [emit_tempo]
    rfl

@[simp] theorem log_tempo (s : Session) (r : LogRecord) : (s.log r).tempo = s.tempo := rfl

theorem keep_tempo (s : Session) (text : String) : (s.keep text).tempo = s.tempo := by
  unfold keep
  split <;> rfl

theorem want_tempo (s : Session) (f : Filter) : (s.want f).2.tempo = s.tempo := by
  rw [want_eq]
  rfl

theorem unwant_tempo (s : Session) (f : Filter) : (s.unwant f).2.tempo = s.tempo := by
  rw [unwant_eq]
  rfl

theorem finish_tempo (s : Session) (ticket : Option Nat) : (s.finish ticket).tempo = s.tempo :=
  setState_tempo { s with buffer := s.buffer.clear } .closed

theorem retryLater_tempo (s : Session) (now : Nat) (random : Float) :
    (s.retryLater now random).tempo = s.tempo := by
  have hdown := setState_tempo s .disconnected
  unfold retryLater
  dsimp only
  split_ifs
  · exact (finish_tempo _ none).trans hdown
  · exact (setState_tempo _ .reconnecting).trans hdown

theorem dial_tempo (s : Session) (now : Nat) : (s.dial now).tempo = s.tempo :=
  setState_tempo s .connecting

theorem sendFrame_tempo (s : Session) (w : Wire) (now : Nat) (random : Float) (f : ClientFrame) :
    (s.sendFrame w now random f).1.tempo = s.tempo := by
  unfold sendFrame
  split
  · rfl
  · exact retryLater_tempo _ now random

theorem offline_tempo (s : Session) (c : Command) : (s.offline c).tempo = s.tempo := by
  cases c with
  | connect => rfl
  | send text => exact keep_tempo s text
  | subscribe f => exact want_tempo s f
  | unsubscribe f => exact unwant_tempo s f
  | close ticket => exact finish_tempo s (some ticket)
  | orphaned => exact finish_tempo s none

theorem online_tempo (s : Session) (w : Wire) (now : Nat) (random : Float) (c : Command) :
    (s.online w now random c).1.tempo = s.tempo := by
  cases c with
  | connect => rfl
  | send text =>
    simp only [online]
    split
    · rfl
    · exact retryLater_tempo _ now random
  | subscribe f =>
    simp only [online, want_eq]
    split
    · rename_i h
      rw [← (Prod.mk.inj h).2, sendFrame_tempo]
      rfl
    · rename_i h
      rw [← (Prod.mk.inj h).2]
      rfl
  | unsubscribe f =>
    simp only [online, unwant_eq]
    split
    · rename_i h
      rw [← (Prod.mk.inj h).2, sendFrame_tempo]
      rfl
    · rename_i h
      rw [← (Prod.mk.inj h).2]
      rfl
  | close ticket => exact finish_tempo { s with closes := s.closes + 1 } (some ticket)
  | orphaned => exact finish_tempo { s with closes := s.closes + 1 } none

theorem handle_tempo (s : Session) (w : Wire) (now : Nat) (random : Float) (c : Command) :
    (s.handle w now random c).1.tempo = s.tempo := by
  unfold handle
  split
  · split
    · exact dial_tempo s now
    · exact offline_tempo s _
  · exact offline_tempo s c
  · exact offline_tempo s c
  · exact online_tempo s w now random c
  · split <;> rfl
  · split <;> rfl

theorem connected_tempo (s : Session) (w : Wire) (now : Nat) (random : Float) :
    (s.connected w now random).1.tempo = s.tempo := by
  have hup := setState_tempo { s with backoff := s.backoff.reset } .connected
  unfold connected
  dsimp only
  split
  · exact (retryLater_tempo _ now random).trans hup
  · split
    · exact (retryLater_tempo _ now random).trans hup
    · exact hup

theorem answerPing_tempo (s : Session) (h : Heartbeat) (now : Nat) (id : UInt64) :
    (s.answerPing h now id).tempo = s.tempo := by
  unfold answerPing
  split
  · rfl
  · rw [emit_tempo]
    rfl

theorem receive_tempo (s : Session) (h : Heartbeat) (now : Nat) (text : String) :
    (s.receive h now text).tempo = s.tempo := by
  unfold receive
  split
  · rename_i f _
    cases f with
    | event | ack | error => simp [receiveFrame]
    | pong id => exact answerPing_tempo s h now id
  · rfl

theorem signal_tempo (h : s.signal = some s') : s'.tempo = s.tempo := by
  unfold signal at h
  split at h
  · split_ifs at h
    obtain rfl := Option.some.inj h
    exact emit_tempo s _
  · cases h

theorem tick_tempo (hs : s.isConnected = false) (h : s.tick w now random = some (s', w')) :
    s'.tempo = s.tempo := by
  unfold tick at h
  split at h
  · split_ifs at h
    obtain rfl := congrArg Prod.fst (Option.some.inj h)
    exact retryLater_tempo _ now random
  · split_ifs at h
    obtain rfl := congrArg Prod.fst (Option.some.inj h)
    exact dial_tempo s now
  · rename_i hp
    simp [isConnected, hp] at hs
  · cases h

theorem respond_tempo {o : Occasion} (ho : (o.isClock && s.isConnected) = false)
    (h : respond o now random s w = some (s', w')) : s'.tempo = s.tempo := by
  unfold respond at h
  split at h
  · obtain rfl := congrArg Prod.fst (Option.some.inj h)
    exact handle_tempo s w now random _
  · obtain rfl := congrArg Prod.fst (Option.some.inj h)
    exact connected_tempo s _ now random
  · obtain rfl := congrArg Prod.fst (Option.some.inj h)
    exact retryLater_tempo _ now random
  · obtain rfl := congrArg Prod.fst (Option.some.inj h)
    exact receive_tempo s _ now _
  · obtain rfl := congrArg Prod.fst (Option.some.inj h)
    exact retryLater_tempo _ now random
  · exact tick_tempo ho h
  · obtain ⟨s₁, hs, he⟩ := Option.map_eq_some_iff.mp h
    obtain rfl := congrArg Prod.fst he
    exact signal_tempo hs
  · obtain rfl := congrArg Prod.fst (Option.some.inj h)
    rfl
  · obtain rfl := congrArg Prod.fst (Option.some.inj h)
    rfl
  · obtain rfl := congrArg Prod.fst (Option.some.inj h)
    rfl
  · cases h

@[simp] theorem emit_records (s : Session) (e : SessionEvent) : (s.emit e).records = s.records := by
  unfold emit
  split_ifs <;> rfl

@[simp] theorem setState_records (s : Session) (next : SessionState) :
    (s.setState next).records = s.records := by
  unfold setState
  split_ifs <;> simp

theorem finish_records (s : Session) (ticket : Option Nat) :
    (s.finish ticket).records = s.records := by simp [finish]

theorem retryLater_records (s : Session) (now : Nat) (random : Float) :
    ∃ more, (s.retryLater now random).records = s.records ++ more ∧
      ∀ r ∈ more, r.message = "reconnect attempts exhausted" := by
  unfold retryLater
  dsimp only
  split_ifs
  · refine ⟨[.warn "reconnect attempts exhausted" [("attempts",
      String.ofList (Json.natDigits (s.setState .disconnected).backoff.attempt))]], ?_, ?_⟩
    · simp only [giveUp, finish_records, log, setState_records]
    · intro r hr
      rw [List.mem_singleton.mp hr]
      rfl
  · exact ⟨[], by simp, by simp⟩

def dropNotice (missed : Nat) : LogRecord :=
  .warn "heartbeat failed, dropping connection" [("missed", String.ofList (Json.natDigits missed))]

/-- The session gives up its connection because pings had no answer. -/
def HeartbeatFailed (s s' : Session) : Prop :=
  s.isConnected ∧ s'.isConnected = false ∧
    ∃ missed, dropNotice missed ∈ s'.records.drop s.records.length

theorem not_heartbeatFailed_of_records (h : s'.records = s.records) : ¬ HeartbeatFailed s s' := by
  rintro ⟨-, -, missed, hmem⟩
  simp [h] at hmem

theorem not_heartbeatFailed_lost {s₁ : Session} (h : s₁.records = s.records) (now : Nat)
    (random : Float) (e : TransportError) : ¬ HeartbeatFailed s (s₁.lost now random e) := by
  rintro ⟨-, -, missed, hmem⟩
  obtain ⟨more, hmore, hmessage⟩ :=
    retryLater_records (s₁.log (.warn "connection lost" [("error", e.message)])) now random
  rw [lost, hmore, log, h, List.append_assoc, List.drop_left] at hmem
  rcases List.mem_append.mp hmem with hlost | hlater
  · have hsame := congrArg LogRecord.message (List.mem_singleton.mp hlost)
    change "heartbeat failed, dropping connection" = "connection lost" at hsame
    exact absurd hsame (by decide)
  · have hsame := hmessage _ hlater
    change "heartbeat failed, dropping connection" = "reconnect attempts exhausted" at hsame
    exact absurd hsame (by decide)

theorem heartbeatFailed_expirePing {h : Heartbeat} (hp : s.phase = .connected h)
    (hmax : s.config.maxMissedPongs ≤ h.missed + 1) (now : Nat) (random : Float) :
    HeartbeatFailed s (s.expirePing h now random) := by
  unfold expirePing
  dsimp only
  rw [if_pos hmax]
  refine ⟨by simp [isConnected, hp], retryLater_isConnected _ now random, h.missed + 1, ?_⟩
  obtain ⟨more, hmore, -⟩ :=
    retryLater_records { s.log (dropNotice (h.missed + 1)) with closes := s.closes + 1 } now random
  change dropNotice (h.missed + 1) ∈ (retryLater { s.log (dropNotice (h.missed + 1)) with
    closes := s.closes + 1 } now random).records.drop s.records.length
  rw [hmore, log, List.append_assoc, List.drop_left]
  exact List.mem_append_left _ (List.mem_singleton_self _)

/-- Everything that a beat can do to the heartbeat and to the pings on the wire. -/
inductive Stir (b : Beat) (now : Nat) (s : Session) (w : Wire) (s' : Session) (w' : Wire) : Prop where
  | away (hs : s.isConnected = false) (hs' : s'.isConnected = false)
  | begins (sends : Option Nat) (new : List Payload) (next : Nat) (hb : b = .other (.accepted sends))
      (hs : s.isConnected = false) (hp' : s'.phase = .connected { nextPing := next })
      (hw : Sends (w.renew sends) w' new) (hnew : new.filterMap Payload.ping? = [])
  | rests (h : Heartbeat) (o : Occasion) (new : List Payload) (hb : b = .other o)
      (ho : o.isHandshake = false) (hp : s.phase = .connected h) (hp' : s'.phase = .connected h)
      (hpong : ∀ id, o.pong? = some id → Keyed.get? id h.outstanding = none)
      (hw : Sends w w' new) (hnew : new.filterMap Payload.ping? = [])
  | answers (h : Heartbeat) (o : Occasion) (id : UInt64) (hb : b = .other o)
      (ho : o.isHandshake = false) (hp : s.phase = .connected h) (hpong : o.pong? = some id)
      (hid : (Keyed.get? id h.outstanding).isSome)
      (hp' : s'.phase = .connected { h with outstanding := Keyed.erase id h.outstanding, missed := 0 })
      (hw : w' = w)
  | pings (h : Heartbeat) (next : Nat) (hb : b = .ping) (hp : s.phase = .connected h)
      (hp' : s'.phase = .connected
        { h with nextPing := next, outstanding := h.outstanding ++ [(s.lastPing + 1, now)] })
      (hw : Sends w w' [.frame (.ping (s.lastPing + 1))])
  | expires (h : Heartbeat) (hb : b = .expire) (hp : s.phase = .connected h)
      (hdue : ∃ p ∈ h.outstanding.head?, p.2 + s.config.pongTimeoutMs ≤ now)
      (hlow : h.missed + 1 < s.config.maxMissedPongs)
      (hp' : s'.phase = .connected
        { h with outstanding := h.outstanding.tail, missed := h.missed + 1 })
      (hw : w' = w)
  | fails (h : Heartbeat) (hb : b = .expire) (hp : s.phase = .connected h)
      (hdue : ∃ p ∈ h.outstanding.head?, p.2 + s.config.pongTimeoutMs ≤ now)
      (hmax : s.config.maxMissedPongs ≤ h.missed + 1) (hf : HeartbeatFailed s s')
  | leaves (hb : b = .ping ∨ ∃ o, b = .other o ∧ o.isHandshake = false ∧ o.pong? = none)
      (hs : s.isConnected) (hs' : s'.isConnected = false) (hf : ¬ HeartbeatFailed s s')

/-- A request about a filter is sent, or the connection is lost. -/
theorem requestFrame_stir {h : Heartbeat} (hp : s.phase = .connected h) (c : Command)
    (fs : List Filter) (action : SubscriptionAction) (f : FilterSpec) :
    Stir (.other (.request c)) now s w
      (sendFrame { s with desired := fs } w now random (.subscription action f)).1
      (sendFrame { s with desired := fs } w now random (.subscription action f)).2 := by
  unfold sendFrame
  split
  · rename_i w₁ hsend
    refine .rests h _ _ rfl rfl hp hp ?_ (Wire.send_sends hsend) rfl
    intro id hid
    cases hid
  · refine .leaves (.inr ⟨_, rfl, rfl, rfl⟩) (by simp [isConnected, hp]) ?_ ?_
    · exact lost_isConnected _ now random _
    · apply not_heartbeatFailed_lost
      rfl

/-- Nothing is sent, and the heartbeat stays as it is. -/
theorem Stir.still {o : Occasion} {h : Heartbeat} (ho : o.isHandshake = false)
    (hp : s.phase = .connected h) (hp' : s'.phase = s.phase)
    (hpong : ∀ id, o.pong? = some id → Keyed.get? id h.outstanding = none)
    (hw : w'.connection = w.connection ∧ w'.sent = w.sent) : Stir (.other o) now s w s' w' :=
  .rests h o [] rfl ho hp (hp'.trans hp) hpong ⟨hw.1, by simpa using hw.2⟩ rfl

theorem online_stir {h : Heartbeat} (hp : s.phase = .connected h) (c : Command) :
    Stir (.other (.request c)) now s w (s.online w now random c).1 (s.online w now random c).2 := by
  have hs : s.isConnected := by simp [isConnected, hp]
  have hends (ticket : Option Nat) : Stir (.other (.request c)) now s w
      (({ s with closes := s.closes + 1 } : Session).finish ticket) w := by
    refine .leaves (.inr ⟨_, rfl, rfl, rfl⟩) hs rfl ?_
    exact not_heartbeatFailed_of_records (finish_records _ ticket)
  cases c with
  | connect => exact .still rfl hp rfl (by simp [Occasion.pong?]) ⟨rfl, rfl⟩
  | send text =>
    simp only [online]
    split
    · rename_i w₁ hsend
      exact .rests h _ _ rfl rfl hp hp (by simp [Occasion.pong?]) (Wire.send_sends hsend) rfl
    · refine .leaves (.inr ⟨_, rfl, rfl, rfl⟩) hs (lost_isConnected _ now random _) ?_
      apply not_heartbeatFailed_lost
      rfl
  | subscribe f =>
    simp only [online, want_eq]
    split
    · rename_i h₁
      rw [← (Prod.mk.inj h₁).2]
      exact requestFrame_stir hp _ _ _ _
    · rename_i h₁
      rw [← (Prod.mk.inj h₁).2]
      exact .still rfl hp rfl (by simp [Occasion.pong?]) ⟨rfl, rfl⟩
  | unsubscribe f =>
    simp only [online, unwant_eq]
    split
    · rename_i h₁
      rw [← (Prod.mk.inj h₁).2]
      exact requestFrame_stir hp _ _ _ _
    · rename_i h₁
      rw [← (Prod.mk.inj h₁).2]
      exact .still rfl hp rfl (by simp [Occasion.pong?]) ⟨rfl, rfl⟩
  | close ticket => exact hends (some ticket)
  | orphaned => exact hends none

theorem receive_stir {h : Heartbeat} (hp : s.phase = .connected h) (text : String) :
    Stir (.other (.arrived text)) now s w (s.receive h now text) w := by
  have hquiet (s₁ : Session) (hp₁ : s₁.phase = s.phase)
      (hpong : (Occasion.arrived text).pong? = none) :
      Stir (.other (.arrived text)) now s w s₁ w := by
    refine .still rfl hp hp₁ ?_ ⟨rfl, rfl⟩
    intro id hid
    rw [hpong] at hid
    cases hid
  unfold receive
  split
  · rename_i f hf
    cases f with
    | event e => exact hquiet _ (by simp [receiveFrame]) (by simp [Occasion.pong?, hf])
    | ack action filter => exact hquiet _ (by simp [receiveFrame]) (by simp [Occasion.pong?, hf])
    | error code message => exact hquiet _ (by simp [receiveFrame]) (by simp [Occasion.pong?, hf])
    | pong id =>
      have hpong : (Occasion.arrived text).pong? = some id := by simp [Occasion.pong?, hf]
      simp only [receiveFrame, answerPing]
      split
      · rename_i hnone
        refine .still rfl hp rfl ?_ ⟨rfl, rfl⟩
        intro id' hid'
        obtain rfl := Option.some.inj (hpong.symm.trans hid')
        exact hnone
      · rename_i sentAt hsome
        exact .answers h _ id rfl rfl hp hpong (by simp [hsome]) (by simp) rfl
  · rename_i hf
    exact hquiet _ rfl (by simp [Occasion.pong?, hf])

theorem eq_of_respond_accepted {sends : Option Nat} {x : Session × Wire}
    (h : respond (.accepted sends) now random s w = some x) :
    x = s.connected (w.renew sends) now random := by
  cases hp : s.phase with
  | connecting t =>
    simp only [respond, hp] at h
    exact (Option.some.inj h).symm
  | idle | connected | waiting | givingUp | ended => simp [respond, hp] at h

theorem connected_stir (sends : Option Nat) (hs : s.isConnected = false) :
    Stir (.other (.accepted sends)) now s w (s.connected (w.renew sends) now random).1
      (s.connected (w.renew sends) now random).2 := by
  unfold connected
  dsimp only
  split
  · exact .away hs (lost_isConnected _ now random _)
  · rename_i w₁ hw₁
    split
    · exact .away hs (lost_isConnected _ now random _)
    · rename_i b w₂ hf
      obtain ⟨new, hnew, hrequests, -⟩ := askAgain_sends hw₁
      obtain ⟨more, hmore, hmessages⟩ := flush_sends hf
      refine .begins sends _ _ rfl hs rfl (hnew.trans hmore) ?_
      rw [List.filterMap_eq_nil_iff]
      intro p hmem
      rcases List.mem_append.mp hmem with hrequest | hmessage
      · exact Payload.ping?_of_request? (hrequests p hrequest)
      · obtain ⟨text, rfl⟩ := hmessages p hmessage
        rfl

theorem sendPing_stir {h : Heartbeat} (hp : s.phase = .connected h) :
    Stir .ping now s w (s.sendPing h w now random).1 (s.sendPing h w now random).2 := by
  unfold sendPing sendFrame
  dsimp only
  split
  · rename_i w₁ hsend
    exact .pings h _ rfl hp rfl (Wire.send_sends hsend)
  · refine .leaves (.inl rfl) (by simp [isConnected, hp]) (lost_isConnected _ now random _) ?_
    apply not_heartbeatFailed_lost
    rfl

theorem expirePing_stir {h : Heartbeat} (hp : s.phase = .connected h)
    (hdue : (s.pongDeadline? h).any (· ≤ now) = true) :
    Stir .expire now s w (s.expirePing h now random) w := by
  have hfront : ∃ p ∈ h.outstanding.head?, p.2 + s.config.pongTimeoutMs ≤ now := by
    simpa [pongDeadline?, Option.any_eq_true] using hdue
  by_cases hmax : s.config.maxMissedPongs ≤ h.missed + 1
  · exact .fails h rfl hp hfront hmax (heartbeatFailed_expirePing hp hmax now random)
  · refine .expires h rfl hp hfront (Nat.lt_of_not_le hmax) ?_ rfl
    simp [expirePing, hmax]

/-- Without a connection nothing but a handshake brings one. -/
theorem respond_away {o : Occasion} (hs : s.isConnected = false)
    (ho : ∀ sends, o ≠ .accepted sends) (h : respond o now random s w = some (s', w')) :
    s'.isConnected = false := by
  cases respond_speech h with
  | resumed sends _ hsame => exact absurd hsame (ho sends)
  | carriedOn _ _ _ _ hc =>
    rw [← Bool.not_eq_true]
    intro hs'
    rw [(hc hs').1] at hs
    cases hs

theorem respond_stir {o : Occasion} (ho : (o.isClock && s.isConnected) = false)
    (h : respond o now random s w = some (s', w')) : Stir (.other o) now s w s' w' := by
  cases hp : s.phase with
  | connected b =>
    have hs : s.isConnected := by simp [isConnected, hp]
    cases o with
    | request c =>
      have hc : s.handle w now random c = (s', w') := Option.some.inj h
      simp only [handle, hp] at hc
      have hstir : Stir (.other (.request c)) now s w (s.online w now random c).1
        (s.online w now random c).2 := online_stir hp c
      rwa [hc] at hstir
    | accepted sends => simp [respond, hp] at h
    | refused e => simp [respond, hp] at h
    | arrived text =>
      simp only [respond, hp, Option.some.injEq, Prod.mk.injEq] at h
      obtain ⟨rfl, rfl⟩ := h
      exact receive_stir hp text
    | broken e =>
      simp only [respond, hp, Option.some.injEq, Prod.mk.injEq] at h
      obtain ⟨rfl, rfl⟩ := h
      refine .leaves (.inr ⟨_, rfl, rfl, rfl⟩) hs (lost_isConnected s now random e) ?_
      exact not_heartbeatFailed_lost rfl now random e
    | clock =>
      rw [hs] at ho
      cases ho
    | signal => simp [respond, signal, hp] at h
    | failing sends =>
      simp only [respond, Option.some.injEq, Prod.mk.injEq] at h
      obtain ⟨rfl, rfl⟩ := h
      exact .still rfl hp rfl (by simp [Occasion.pong?]) ⟨rfl, rfl⟩
    | taken n =>
      simp only [respond, Option.some.injEq, Prod.mk.injEq] at h
      obtain ⟨rfl, rfl⟩ := h
      exact .still rfl hp rfl (by simp [Occasion.pong?]) ⟨rfl, rfl⟩
    | unwatched =>
      simp only [respond, Option.some.injEq, Prod.mk.injEq] at h
      obtain ⟨rfl, rfl⟩ := h
      exact .still rfl hp rfl (by simp [Occasion.pong?]) ⟨rfl, rfl⟩
  | idle | connecting | waiting | givingUp | ended =>
    have hs : s.isConnected = false := by simp [isConnected, hp]
    by_cases hshake : ∃ sends, o = .accepted sends
    · obtain ⟨sends, rfl⟩ := hshake
      obtain ⟨rfl, rfl⟩ := Prod.mk.inj (eq_of_respond_accepted h)
      exact connected_stir sends hs
    · exact .away hs (respond_away hs (fun sends he => hshake ⟨sends, he⟩) h)

theorem beat_stir {b : Beat} (h : beat b now random s w = some (s', w')) : Stir b now s w s' w' := by
  unfold beat at h
  split at h
  · split at h
    · rename_i hb hp
      split_ifs at h
      have hstir : Stir .ping now s w (s.sendPing hb w now random).1
        (s.sendPing hb w now random).2 := sendPing_stir hp
      rwa [Option.some.inj h] at hstir
    · cases h
  · split at h
    · rename_i hb hp
      split_ifs at h with hdue
      obtain ⟨rfl, rfl⟩ := Prod.mk.inj (Option.some.inj h)
      exact expirePing_stir hp hdue
    · cases h
  · split_ifs at h with ho
    exact respond_stir (Bool.eq_false_iff.mpr ho) h

def Beat.isPing : Beat → Bool
  | .ping => true
  | .expire | .other _ => false

theorem expirePing_tempo (s : Session) (h : Heartbeat) (now : Nat) (random : Float) :
    (s.expirePing h now random).tempo = s.tempo := by
  unfold expirePing
  dsimp only
  split_ifs
  · exact retryLater_tempo _ now random
  · rfl

theorem beat_tempo {b : Beat} (h : beat b now random s w = some (s', w')) :
    s'.tempo = (s.config, if b.isPing then s.lastPing + 1 else s.lastPing) := by
  unfold beat at h
  split at h
  · split at h
    · rename_i hb hp
      split_ifs at h
      have hsend := sendFrame_tempo { s with
        lastPing := s.lastPing + 1
        phase := .connected { hb with
          nextPing := hb.nextPing + s.config.heartbeatMs
          outstanding := hb.outstanding ++ [(s.lastPing + 1, now)] } } w now random
        (.ping (s.lastPing + 1))
      obtain rfl := congrArg Prod.fst (Option.some.inj h)
      exact hsend
    · cases h
  · split at h
    · split_ifs at h
      obtain rfl := congrArg Prod.fst (Option.some.inj h)
      exact expirePing_tempo s _ now random
    · cases h
  · split_ifs at h with ho
    exact respond_tempo (Bool.eq_false_iff.mpr ho) h

theorem respond_numbered {o : Occasion} (hw : w.Numbered)
    (h : respond o now random s w = some (s', w')) : w'.Numbered := by
  cases respond_speech h with
  | resumed sends _ _ _ hsends => exact hsends.numbered (hw.renew sends)
  | carriedOn _ _ _ hsends => exact hsends.numbered hw

theorem beat_numbered {b : Beat} (hw : w.Numbered) (h : beat b now random s w = some (s', w')) :
    w'.Numbered := by
  unfold beat at h
  split at h
  · split at h
    · rename_i hb hp
      split_ifs at h
      have hping : s.sendPing hb w now random = (s', w') := Option.some.inj h
      unfold sendPing at hping
      obtain ⟨new, hsends, -⟩ := sendFrame_sends _ w now random (.ping (s.lastPing + 1))
      rw [hping] at hsends
      exact hsends.numbered hw
    · cases h
  · split at h
    · split_ifs at h
      obtain rfl := congrArg Prod.snd (Option.some.inj h)
      exact hw
    · cases h
  · split_ifs at h
    exact respond_numbered hw h

end Session

end Fanout
