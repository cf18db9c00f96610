import Fanout.Proofs.Client.Observer
import Fanout.Proofs.Wish

/-!
The filters that a session wants, what it was asked for and what it asks the server for. While it is
connected, the requests on that connection add up to the filters wanted.
-/
namespace Fanout

def Payload.request? : Payload → Option (SubscriptionAction × FilterSpec)
  | .frame (.subscription a s) => some (a, s)
  | _ => none

namespace Wire

def current (w : Wire) : List Payload := (w.sent.filter fun p => p.1 = w.connection).map Prod.snd

/-- The requests about filters sent on the connection in use. -/
def requests (w : Wire) : List (SubscriptionAction × FilterSpec) :=
  w.current.filterMap Payload.request?

def requestTexts (w : Wire) : List String :=
  (w.current.filter fun p => p.request?.isSome).map Payload.text

theorem requestTexts_eq (w : Wire) :
    w.requestTexts = w.requests.map fun q => (ClientFrame.subscription q.1 q.2).encode := by
  unfold requestTexts requests
  induction w.current with
  | nil => rfl
  | cons p rest ih =>
    cases hp : p.request? with
    | none => simpa [hp] using ih
    | some q =>
      have htext : p.text = (ClientFrame.subscription q.1 q.2).encode := by
        unfold Payload.request? at hp
        split at hp
        · rw [← Option.some.inj hp]
          rfl
        · cases hp
      simpa [hp, htext] using ih

/-- More is sent on the same connection. -/
structure Sends (w w' : Wire) (new : List Payload) : Prop where
  connection : w'.connection = w.connection
  sent : w'.sent = w.sent ++ new.map (w.connection, ·)

/-- Nothing was sent on a connection to come. -/
def Numbered (w : Wire) : Prop := ∀ p ∈ w.sent, p.1 ≤ w.connection

variable {w w' w'' : Wire} {new more : List Payload}

theorem Sends.refl (w : Wire) : Sends w w [] := ⟨rfl, by simp⟩

theorem Sends.trans (h : Sends w w' new) (h' : Sends w' w'' more) : Sends w w'' (new ++ more) where
  connection := h'.connection.trans h.connection
  sent := by rw [h'.sent, h.sent, h.connection, List.map_append, List.append_assoc]

theorem Sends.current (h : Sends w w' new) : w'.current = w.current ++ new := by
  unfold Wire.current
  rw [h.sent, h.connection, List.filter_append, List.map_append]
  simp [List.filter_map, Function.comp_def]

theorem Sends.requests (h : Sends w w' new) :
    w'.requests = w.requests ++ new.filterMap Payload.request? := by
  rw [Wire.requests, h.current, List.filterMap_append, Wire.requests]

theorem Sends.numbered (h : Sends w w' new) (hw : w.Numbered) : w'.Numbered := by
  intro p hp
  rw [h.sent] at hp
  rw [h.connection]
  rcases List.mem_append.mp hp with hold | hnew
  · exact hw p hold
  · obtain ⟨q, -, rfl⟩ := List.mem_map.mp hnew
    exact Nat.le_refl _

theorem Numbered.renew (h : w.Numbered) (accepts : Option Nat) : (w.renew accepts).Numbered :=
  fun p hp => Nat.le_succ_of_le (h p hp)

/-- On a new connection nothing was sent. -/
theorem Numbered.current_renew (h : w.Numbered) (accepts : Option Nat) :
    (w.renew accepts).current = [] := by
  unfold current
  rw [List.map_eq_nil_iff, List.filter_eq_nil_iff]
  intro p hp he
  have hle : p.1 ≤ w.connection := h p hp
  have heq : p.1 = w.connection + 1 := of_decide_eq_true he
  omega

theorem Numbered.requests_renew (h : w.Numbered) (accepts : Option Nat) :
    (w.renew accepts).requests = [] := by
  rw [requests, h.current_renew]
  rfl

theorem send_sends {p : Payload} (h : w.send p = (true, w')) : Sends w w' [p] := by
  unfold send at h
  split_ifs at h
  · cases h
  · obtain rfl := (Prod.mk.inj h).2
    exact ⟨rfl, rfl⟩

theorem send_failed {p : Payload} (h : w.send p = (false, w')) : w' = w := by
  unfold send at h
  split_ifs at h
  · exact (Prod.mk.inj h).2.symm
  · cases h

end Wire

namespace Session

open Wire (Sends)

variable {s s' : Session} {w w' : Wire} {now : Nat} {random : Float}

theorem askAgain_sends {fs : List Filter} {ok : Bool} (h : askAgain w fs = (ok, w')) :
    ∃ new, Sends w w' new ∧ (∀ p ∈ new, p.request?.isSome) ∧ (ok = true →
      new.filterMap Payload.request? = fs.map fun f => Wish.written ⟨.subscribe, f⟩) := by
  induction fs generalizing w with
  | nil =>
    obtain rfl : w = w' := (Prod.mk.inj h).2
    exact ⟨[], .refl w, by simp, fun _ => rfl⟩
  | cons f rest ih =>
    unfold askAgain at h
    split at h
    · rename_i w₁ hs
      obtain ⟨new, hnew, hrequests, hall⟩ := ih h
      refine ⟨_, (Wire.send_sends hs).trans hnew, ?_, fun hok => ?_⟩
      · intro p hp
        rcases List.mem_cons.mp hp with rfl | hp
        · rfl
        · exact hrequests p hp
      · rw [List.filterMap_append, hall hok]
        rfl
    · rename_i w₁ hs
      obtain ⟨rfl, rfl⟩ := Prod.mk.inj h
      obtain rfl := Wire.send_failed hs
      exact ⟨[], .refl w₁, by simp, fun hok => by cases hok⟩

theorem flush_sends {n : Nat} {b b' : Buffer} {ok : Bool} (h : flush n b w = (ok, b', w')) :
    ∃ new, Sends w w' new ∧ ∀ p ∈ new, ∃ text, p = .message text := by
  induction n generalizing b w with
  | zero =>
    obtain rfl : w = w' := (Prod.mk.inj (Prod.mk.inj h).2).2
    exact ⟨[], .refl w, by simp⟩
  | succ n ih =>
    unfold flush at h
    split at h
    · obtain rfl : w = w' := (Prod.mk.inj (Prod.mk.inj h).2).2
      exact ⟨[], .refl w, by simp⟩
    · split at h
      · rename_i w₁ hs
        obtain ⟨new, hnew, hmessages⟩ := ih h
        refine ⟨_, (Wire.send_sends hs).trans hnew, ?_⟩
        intro p hp
        rcases List.mem_cons.mp hp with rfl | hp
        · exact ⟨_, rfl⟩
        · exact hmessages p hp
      · rename_i w₁ hs
        obtain rfl : w₁ = w' := (Prod.mk.inj (Prod.mk.inj h).2).2
        obtain rfl := Wire.send_failed hs
        exact ⟨[], .refl w₁, by simp⟩

theorem retryLater_isConnected (s : Session) (now : Nat) (random : Float) :
    (s.retryLater now random).isConnected = false := by
  obtain ⟨t, ht, -⟩ | ⟨n, hn⟩ := retryLater_cases s now random
  · simp [isConnected, ht]
  · simp [isConnected, hn]

theorem lost_isConnected (s : Session) (now : Nat) (random : Float) (e : TransportError) :
    (s.lost now random e).isConnected = false := retryLater_isConnected _ now random

/-- A frame is sent, or the connection is lost. -/
theorem sendFrame_sends (s : Session) (w : Wire) (now : Nat) (random : Float) (f : ClientFrame) :
    ∃ new, Sends w (s.sendFrame w now random f).2 new ∧
      ((s.sendFrame w now random f).1.isConnected → new = [.frame f]) := by
  unfold sendFrame
  split
  · rename_i w₁ hs
    exact ⟨_, Wire.send_sends hs, fun _ => rfl⟩
  · rename_i w₁ hs
    obtain rfl := Wire.send_failed hs
    exact ⟨[], .refl w₁, fun hc => by simp [lost_isConnected] at hc⟩

theorem want_eq (s : Session) (f : Filter) :
    s.want f = (Wish.matters s.desired ⟨.subscribe, f⟩,
      { s with desired := Wish.grant s.desired ⟨.subscribe, f⟩ }) := by
  by_cases hf : f ∈ s.desired
  · simp [want, Wish.matters, Wish.grant, hf]
  · simp [want, Wish.matters, Wish.grant, hf]

theorem unwant_eq (s : Session) (f : Filter) :
    s.unwant f = (Wish.matters s.desired ⟨.unsubscribe, f⟩,
      { s with desired := Wish.grant s.desired ⟨.unsubscribe, f⟩ }) := by
  by_cases hf : f ∈ s.desired
  · simp [unwant, Wish.matters, Wish.grant, hf]
  · have hm : Wish.matters s.desired ⟨.unsubscribe, f⟩ = false := by simp [Wish.matters, hf]
    rw [hm, Wish.grant_of_not_matters hm]
    simp [unwant, hf]

@[simp] theorem emit_desired (s : Session) (e : SessionEvent) : (s.emit e).desired = s.desired := by
  unfold emit
  split_ifs <;> rfl

@[simp] theorem setState_desired (s : Session) (next : SessionState) :
    (s.setState next).desired = s.desired := by
  unfold setState
  split_ifs <;> simp

@[simp] theorem log_desired (s : Session) (r : LogRecord) : (s.log r).desired = s.desired := rfl

@[simp] theorem keep_desired (s : Session) (text : String) : (s.keep text).desired = s.desired := by
  unfold keep
  split <;> rfl

@[simp] theorem finish_desired (s : Session) (ticket : Option Nat) :
    (s.finish ticket).desired = s.desired := by simp [finish]

@[simp] theorem retryLater_desired (s : Session) (now : Nat) (random : Float) :
    (s.retryLater now random).desired = s.desired := by
  unfold retryLater
  dsimp only
  split_ifs <;> simp [giveUp]

@[simp] theorem dial_desired (s : Session) (now : Nat) : (s.dial now).desired = s.desired := by
  simp [dial]

@[simp] theorem lost_desired (s : Session) (now : Nat) (random : Float) (e : TransportError) :
    (s.lost now random e).desired = s.desired := by simp [lost]

@[simp] theorem sendFrame_desired (s : Session) (w : Wire) (now : Nat) (random : Float)
    (f : ClientFrame) : (s.sendFrame w now random f).1.desired = s.desired := by
  unfold sendFrame
  split <;> simp

theorem connected_desired (s : Session) (w : Wire) (now : Nat) (random : Float) :
    (s.connected w now random).1.desired = s.desired := by
  unfold connected
  dsimp only
  split
  · simp
  · split <;> simp

theorem receive_desired (s : Session) (h : Heartbeat) (now : Nat) (text : String) :
    (s.receive h now text).desired = s.desired := by
  unfold receive
  split
  · rename_i f _
    cases f with
    | event | ack | error => simp [receiveFrame]
    | pong id =>
      simp only [receiveFrame, answerPing]
      split <;> simp
  · simp

def Occasion.wish? : Occasion → Option Wish
  | .request (.subscribe f) => some ⟨.subscribe, f⟩
  | .request (.unsubscribe f) => some ⟨.unsubscribe, f⟩
  | _ => none

/-- The requests about filters that a session hears. A closed one hears none. -/
def heard (s : Session) (o : Occasion) : List Wish := if s.isOpen then o.wish?.toList else []

theorem heard_cases (s : Session) (o : Occasion) : s.heard o = [] ∨ ∃ q, s.heard o = [q] := by
  unfold heard
  split_ifs
  · cases o.wish? with
    | none => exact .inl rfl
    | some q => exact .inr ⟨q, rfl⟩
  · exact .inl rfl

theorem heard_eq_nil {o : Occasion} (h : o.wish? = none) (s : Session) : s.heard o = [] := by
  simp [heard, h]

inductive Speech (o : Occasion) (s : Session) (w : Wire) (s' : Session) (w' : Wire) : Prop where
  | resumed (sends : Option Nat) (new : List Payload) (ho : o = .accepted sends)
      (hd : s'.desired = s.desired) (hw : Sends (w.renew sends) w' new)
      (hc : s'.isConnected → new.filterMap Payload.request? =
        s.desired.map fun f => Wish.written ⟨.subscribe, f⟩)
  | carriedOn (new : List Payload) (ho : ∀ sends, o ≠ .accepted sends)
      (hd : s'.desired = (s.heard o).foldl Wish.grant s.desired) (hw : Sends w w' new)
      (hc : s'.isConnected → s.isConnected ∧ new.filterMap Payload.request? =
        ((s.heard o).filter fun q => q.matters s.desired).map Wish.written)

/-- Nothing is asked for and no connection is made. -/
theorem Speech.quiet {o : Occasion} (ho : ∀ sends, o ≠ .accepted sends) (hq : o.wish? = none)
    (hd : s'.desired = s.desired) (hs : w'.connection = w.connection ∧ w'.sent = w.sent)
    (hc : s'.isConnected → s.isConnected) : Speech o s w s' w' := by
  have hnone := heard_eq_nil hq s
  refine .carriedOn [] ho ?_ ⟨hs.1, by simpa using hs.2⟩ fun h => ⟨hc h, ?_⟩
  · rw [hnone]
    exact hd
  · rw [hnone]
    rfl

theorem offline_speech (c : Command) (hs : s.isOpen) (hc : s.isConnected = false) :
    Speech (.request c) s w (s.offline c) w := by
  have hstill : ∀ s' : Session, s'.phase = s.phase → s'.isConnected → s.isConnected := by
    intro s' hp h
    simpa [isConnected, hp] using h
  cases c with
  | connect => exact .quiet (by simp) rfl rfl ⟨rfl, rfl⟩ id
  | send text => exact .quiet (by simp) rfl (by simp [offline]) ⟨rfl, rfl⟩ (hstill _ (by simp [offline]))
  | subscribe f =>
    refine .carriedOn [] (by simp) ?_ (.refl w) fun h => ?_
    · simp [offline, want_eq, heard, hs, Occasion.wish?]
    · have := hstill (s.offline (.subscribe f)) (by simp [offline]) h
      simp [hc] at this
  | unsubscribe f =>
    refine .carriedOn [] (by simp) ?_ (.refl w) fun h => ?_
    · simp [offline, unwant_eq, heard, hs, Occasion.wish?]
    · have := hstill (s.offline (.unsubscribe f)) (by simp [offline]) h
      simp [hc] at this
  | close ticket =>
    exact .quiet (by simp) rfl (by simp [offline]) ⟨rfl, rfl⟩ (by simp [offline, isConnected])
  | orphaned =>
    exact .quiet (by simp) rfl (by simp [offline]) ⟨rfl, rfl⟩ (by simp [offline, isConnected])

/-- A session with a connection sends a request that changes what it wants, and no other one. -/
theorem wish_speech (now : Nat) (random : Float) {o : Occasion} {q : Wish} (hq : o.wish? = some q)
    (ho : ∀ sends, o ≠ .accepted sends) (hs : s.isOpen) (hc : s.isConnected)
    (h : (s', w') = if q.matters s.desired then
        sendFrame { s with desired := q.grant s.desired } w now random
          (.subscription q.action q.filter.toSpec)
      else ({ s with desired := q.grant s.desired }, w)) : Speech o s w s' w' := by
  have hheard : s.heard o = [q] := by simp [heard, hs, hq]
  by_cases hm : q.matters s.desired = true
  · rw [if_pos hm] at h
    obtain rfl := congrArg Prod.fst h
    obtain rfl := congrArg Prod.snd h
    obtain ⟨new, hnew, hframe⟩ := sendFrame_sends { s with desired := q.grant s.desired } w now random
      (.subscription q.action q.filter.toSpec)
    refine .carriedOn new ho (by simp [hheard]) hnew fun hcon => ⟨hc, ?_⟩
    rw [hframe hcon, hheard]
    simp [hm, Payload.request?, Wish.written]
  · rw [if_neg hm] at h
    obtain ⟨rfl, rfl⟩ := Prod.mk.inj h
    refine .carriedOn [] ho (by simp [hheard]) (.refl _) fun _ => ⟨hc, ?_⟩
    rw [hheard]
    simp [hm]

theorem online_speech (c : Command) (hs : s.isOpen) (hc : s.isConnected) :
    Speech (.request c) s w (s.online w now random c).1 (s.online w now random c).2 := by
  cases c with
  | connect => exact .quiet (by simp) rfl rfl ⟨rfl, rfl⟩ id
  | send text =>
    simp only [online]
    split
    · rename_i w₁ hsend
      have hnone : s.heard (.request (.send text)) = [] := heard_eq_nil rfl s
      refine .carriedOn _ (by simp) (by simp [hnone]) (Wire.send_sends hsend) fun _ => ⟨hc, ?_⟩
      rw [hnone]
      rfl
    · rename_i w₁ hsend
      obtain rfl := Wire.send_failed hsend
      exact .quiet (by simp) rfl (by simp) ⟨rfl, rfl⟩ fun _ => hc
  | subscribe f =>
    refine wish_speech now random (q := ⟨.subscribe, f⟩) rfl (by simp) hs hc ?_
    simp only [online, want_eq]
    cases Wish.matters s.desired ⟨.subscribe, f⟩ <;> rfl
  | unsubscribe f =>
    refine wish_speech now random (q := ⟨.unsubscribe, f⟩) rfl (by simp) hs hc ?_
    simp only [online, unwant_eq]
    cases Wish.matters s.desired ⟨.unsubscribe, f⟩ <;> rfl
  | close ticket =>
    exact .quiet (by simp) rfl (by simp [online]) ⟨rfl, rfl⟩ fun _ => hc
  | orphaned =>
    exact .quiet (by simp) rfl (by simp [online]) ⟨rfl, rfl⟩ fun _ => hc

theorem handle_speech (c : Command) :
    Speech (.request c) s w (s.handle w now random c).1 (s.handle w now random c).2 := by
  unfold handle
  cases hp : s.phase with
  | idle =>
    have hopen : s.isOpen := by simp [isOpen, hp]
    have hc : s.isConnected = false := by simp [isConnected, hp]
    cases c with
    | connect =>
      exact .quiet (by simp) rfl (by simp) ⟨rfl, rfl⟩ (by simp [dial, isConnected])
    | send | subscribe | unsubscribe | close | orphaned => exact offline_speech _ hopen hc
  | connecting | waiting =>
    exact offline_speech c (by simp [isOpen, hp]) (by simp [isConnected, hp])
  | connected h =>
    exact online_speech c (by simp [isOpen, hp]) (by simp [isConnected, hp])
  | givingUp | ended =>
    -- A closed session hears no request.
    have hheard : s.heard (.request c) = [] := by simp [heard, isOpen, hp]
    have hclosed : s.isConnected = false := by simp [isConnected, hp]
    refine .carriedOn [] (by simp) ?_ ?_ ?_
    · rw [hheard]
      cases c <;> rfl
    · cases c <;> exact .refl w
    · cases c <;> simp [isConnected, hp]

theorem connected_speech (sends : Option Nat) :
    Speech (.accepted sends) s w (s.connected (w.renew sends) now random).1
      (s.connected (w.renew sends) now random).2 := by
  have hd := connected_desired s (w.renew sends) now random
  revert hd
  unfold connected
  dsimp only
  split
  · rename_i w₁ hw₁
    intro hd
    obtain ⟨new, hnew, -⟩ := askAgain_sends hw₁
    exact .resumed sends new rfl hd hnew fun hc => by simp [lost_isConnected] at hc
  · rename_i w₁ hw₁
    obtain ⟨new, hnew, -, hall⟩ := askAgain_sends hw₁
    split
    · rename_i b w₂ hf
      intro hd
      obtain ⟨more, hmore, -⟩ := flush_sends hf
      exact .resumed sends _ rfl hd (hnew.trans hmore) fun hc => by simp [lost_isConnected] at hc
    · rename_i b w₂ hf
      intro hd
      obtain ⟨more, hmore, hmessages⟩ := flush_sends hf
      have hnone : more.filterMap Payload.request? = [] := by
        rw [List.filterMap_eq_nil_iff]
        intro p hp
        obtain ⟨text, rfl⟩ := hmessages p hp
        rfl
      refine .resumed sends _ rfl hd (hnew.trans hmore) fun _ => ?_
      rw [List.filterMap_append, hnone, List.append_nil, hall rfl]
      simp

theorem tick_speech (h : s.tick w now random = some (s', w')) : Speech .clock s w s' w' := by
  unfold tick at h
  split at h
  · split_ifs at h
    obtain ⟨rfl, rfl⟩ := Prod.mk.inj (Option.some.inj h)
    exact .quiet (by simp) rfl (by simp [connectFailed]) ⟨rfl, rfl⟩
      fun hc => by simp [connectFailed, retryLater_isConnected] at hc
  · split_ifs at h
    obtain ⟨rfl, rfl⟩ := Prod.mk.inj (Option.some.inj h)
    exact .quiet (by simp) rfl (by simp) ⟨rfl, rfl⟩ (by simp [dial, isConnected])
  · rename_i b hp
    have hc : s.isConnected := by simp [isConnected, hp]
    split_ifs at h
    · obtain ⟨rfl, rfl⟩ := Prod.mk.inj (Option.some.inj h)
      refine .quiet (by simp) rfl ?_ ⟨rfl, rfl⟩ fun _ => hc
      unfold expirePing
      dsimp only
      split_ifs <;> simp
    · have hping : s.sendPing b w now random = (s', w') := Option.some.inj h
      have hnone : s.heard .clock = [] := heard_eq_nil rfl s
      unfold sendPing at hping
      dsimp only at hping
      have hd := congrArg (fun x => x.1.desired) hping
      obtain ⟨new, hnew, hframe⟩ := sendFrame_sends _ w now random (.ping (s.lastPing + 1))
      rw [hping] at hnew hframe
      refine .carriedOn new (by simp) (by simpa [hnone, eq_comm] using hd) hnew fun hcon => ⟨hc, ?_⟩
      rw [hframe hcon, hnone]
      rfl
  · cases h

theorem respond_speech {o : Occasion} (h : respond o now random s w = some (s', w')) :
    Speech o s w s' w' := by
  unfold respond at h
  split at h
  · obtain ⟨rfl, rfl⟩ := Prod.mk.inj (Option.some.inj h)
    exact handle_speech _
  · obtain ⟨rfl, rfl⟩ := Prod.mk.inj (Option.some.inj h)
    exact connected_speech _
  · obtain ⟨rfl, rfl⟩ := Prod.mk.inj (Option.some.inj h)
    exact .quiet (by simp) rfl (by simp [connectFailed]) ⟨rfl, rfl⟩
      fun hc => by simp [connectFailed, retryLater_isConnected] at hc
  · rename_i hp
    obtain ⟨rfl, rfl⟩ := Prod.mk.inj (Option.some.inj h)
    exact .quiet (by simp) rfl (receive_desired _ _ _ _) ⟨rfl, rfl⟩
      fun _ => by simp [isConnected, hp]
  · obtain ⟨rfl, rfl⟩ := Prod.mk.inj (Option.some.inj h)
    exact .quiet (by simp) rfl (by simp) ⟨rfl, rfl⟩ fun hc => by simp [lost_isConnected] at hc
  · exact tick_speech h
  · obtain ⟨s₁, hs, he⟩ := Option.map_eq_some_iff.mp h
    obtain ⟨rfl, rfl⟩ := Prod.mk.inj he
    have hend := signal_phase hs
    refine .quiet (by simp) rfl ?_ ⟨rfl, rfl⟩ (by simp [isConnected, hend])
    unfold signal at hs
    split at hs
    · split_ifs at hs
      rw [← Option.some.inj hs]
      simp
    · cases hs
  · obtain ⟨rfl, rfl⟩ := Prod.mk.inj (Option.some.inj h)
    exact .quiet (by simp) rfl rfl ⟨rfl, rfl⟩ id
  · obtain ⟨rfl, rfl⟩ := Prod.mk.inj (Option.some.inj h)
    exact .quiet (by simp) rfl rfl ⟨rfl, rfl⟩ id
  · obtain ⟨rfl, rfl⟩ := Prod.mk.inj (Option.some.inj h)
    exact .quiet (by simp) rfl rfl ⟨rfl, rfl⟩ id
  · cases h

/-- What was asked for, and the most filters wanted at a time since the last handshake. -/
structure Wishes where
  asked : List Wish := []
  peak : Nat := 0

def wishes : Observer Wishes where
  blank := {}
  note o before after n :=
    { asked := n.asked ++ before.heard o
      peak := max (if o.isHandshake then 0 else n.peak) after.desired.length }

/-- The requests on the connection in use add up to `fs` without ever passing `peak`, and are about
filters in `asked`. -/
def AddUp (w : Wire) (fs : List Filter) (n : Wishes) : Prop :=
  ∃ sent : List Wish, w.requests = sent.map Wish.written ∧ Wish.held sent = fs ∧
    (∀ front, front <+: sent → (Wish.held front).length ≤ n.peak) ∧
    ∀ q ∈ sent, ∃ q' ∈ n.asked, q'.filter = q.filter

theorem AddUp.mono {fs : List Filter} {n n' : Wishes} (h : AddUp w fs n)
    (hw : w'.requests = w.requests) (hpeak : n.peak ≤ n'.peak) (hasked : n.asked ⊆ n'.asked) :
    AddUp w' fs n' := by
  obtain ⟨sent, hsent, hheld, hfront, hfrom⟩ := h
  refine ⟨sent, hw.trans hsent, hheld, ?_, ?_⟩
  · intro front hp
    exact Nat.le_trans (hfront front hp) hpeak
  · intro q hq
    obtain ⟨q', hq', he⟩ := hfrom q hq
    exact ⟨q', hasked hq', he⟩

/-- One more request is sent. -/
theorem AddUp.concat {fs : List Filter} {n : Wishes} {q : Wish} (h : AddUp w fs n)
    (hw : w'.requests = w.requests ++ [q.written]) (hq : q ∈ n.asked)
    (hlen : (q.grant fs).length ≤ n.peak) : AddUp w' (q.grant fs) n := by
  obtain ⟨sent, hsent, hheld, hfront, hfrom⟩ := h
  have hconcat : Wish.held (sent ++ [q]) = q.grant fs := by rw [Wish.held_concat, hheld]
  refine ⟨sent ++ [q], by simp [hw, hsent], hconcat, ?_, ?_⟩
  · intro front hp
    rcases List.prefix_concat_iff.mp hp with rfl | hp
    · rw [hconcat]
      exact hlen
    · exact hfront front hp
  · intro q₁ hq₁
    rcases List.mem_append.mp hq₁ with hold | hnew
    · exact hfrom q₁ hold
    · exact ⟨q, hq, by rw [List.mem_singleton.mp hnew]⟩

/-- After a handshake every filter wanted is asked for once. -/
theorem AddUp.resumed {fs : List Filter} {n : Wishes} (hfs : fs.Nodup)
    (hw : w.requests = fs.map fun f => Wish.written ⟨.subscribe, f⟩) (hlen : fs.length ≤ n.peak)
    (hfrom : ∀ f ∈ fs, ∃ q ∈ n.asked, q.filter = f) : AddUp w fs n := by
  refine ⟨fs.map fun f => ⟨.subscribe, f⟩, by simp [hw], Wish.held_subscribe hfs, ?_, ?_⟩
  · intro front hp
    obtain ⟨first, hfirst, rfl⟩ := List.prefix_map_iff.mp hp
    rw [Wish.held_subscribe (hfirst.sublist.nodup hfs)]
    exact Nat.le_trans hfirst.length_le hlen
  · intro q hq
    obtain ⟨f, hf, rfl⟩ := List.mem_map.mp hq
    exact hfrom f hf

/-- The session wants what it was asked for, and has asked for that on the connection in use. -/
structure Kept (t : Observed Wishes) : Prop where
  numbered : t.wire.Numbered
  desired : t.session.desired = Wish.held t.notes.asked
  spoken : t.session.isConnected → AddUp t.wire t.session.desired t.notes

namespace Kept

theorem start (config : SessionConfig) : Kept (wishes.start config) where
  numbered := fun _ hp => absurd hp List.not_mem_nil
  desired := rfl
  spoken := fun h => by simp [Observer.start, Session.new, isConnected] at h

theorem resumed {t : Observed Wishes} (h : Kept t) {sends : Option Nat} {new : List Payload}
    (hd : s'.desired = t.session.desired) (hw : Sends (t.wire.renew sends) w' new)
    (hc : s'.isConnected → new.filterMap Payload.request? =
      t.session.desired.map fun f => Wish.written ⟨.subscribe, f⟩) :
    Kept ⟨s', w', wishes.note (.accepted sends) t.session s' t.notes⟩ := by
  have hnodup : t.session.desired.Nodup := h.desired ▸ Wish.nodup_held _
  refine ⟨hw.numbered (h.numbered.renew sends), ?_, fun hcon => ?_⟩
  · simp [wishes, heard_eq_nil (o := .accepted sends) rfl, hd, h.desired]
  · dsimp only
    rw [hd]
    apply AddUp.resumed hnodup
    · rw [hw.requests, h.numbered.requests_renew, hc hcon, List.nil_append]
    · simp only [wishes, hd]
      exact Nat.le_max_right _ _
    · intro f hf
      obtain ⟨q, hq, he⟩ := Wish.exists_of_mem_held (h.desired ▸ hf)
      exact ⟨q, List.mem_append_left _ hq, he⟩

theorem carriedOn {t : Observed Wishes} (h : Kept t) {o : Occasion} {new : List Payload}
    (ho : ∀ sends, o ≠ .accepted sends)
    (hd : s'.desired = (t.session.heard o).foldl Wish.grant t.session.desired)
    (hw : Sends t.wire w' new)
    (hc : s'.isConnected → t.session.isConnected ∧ new.filterMap Payload.request? =
      ((t.session.heard o).filter fun q => q.matters t.session.desired).map Wish.written) :
    Kept ⟨s', w', wishes.note o t.session s' t.notes⟩ := by
  refine ⟨hw.numbered h.numbered, ?_, fun hcon => ?_⟩
  · rw [hd, h.desired]
    exact (Wish.held_append _ _).symm
  · obtain ⟨hbefore, hnew⟩ := hc hcon
    have hreq := hw.requests
    rw [hnew] at hreq
    have hnot : o.isHandshake = false := by
      cases o with
      | accepted sends => exact absurd rfl (ho sends)
      | _ => rfl
    have hpeak : (wishes.note o t.session s' t.notes).peak = max t.notes.peak s'.desired.length := by
      simp [wishes, hnot]
    have hmono : ∀ w₁ : Wire, w₁.requests = t.wire.requests →
        AddUp w₁ t.session.desired (wishes.note o t.session s' t.notes) := fun w₁ hw₁ =>
      (h.spoken hbefore).mono hw₁ (hpeak ▸ Nat.le_max_left _ _) (List.subset_append_left _ _)
    dsimp only
    obtain hnone | ⟨q, hq⟩ := heard_cases t.session o
    · have hsame : s'.desired = t.session.desired := by simpa [hnone] using hd
      rw [hsame]
      exact hmono w' (by simpa [hnone] using hreq)
    · have hgrant : s'.desired = q.grant t.session.desired := by simpa [hq] using hd
      by_cases hm : q.matters t.session.desired = true
      · rw [hgrant]
        apply (hmono t.wire rfl).concat
        · simpa [hq, hm] using hreq
        · simp [wishes, hq]
        · rw [hpeak, ← hgrant]
          exact Nat.le_max_right _ _
      · rw [hgrant, Wish.grant_of_not_matters (by simpa using hm)]
        exact hmono w' (by simpa [hq, hm] using hreq)

theorem of_reachable {config : SessionConfig} {t : Observed Wishes}
    (h : wishes.Reachable config t) : Kept t := by
  refine h.keeps (start config) fun t o now random s w ht hr => ?_
  cases respond_speech hr with
  | resumed sends new ho hd hw hc =>
    rw [ho]
    exact ht.resumed hd hw hc
  | carriedOn new ho hd hw hc => exact ht.carriedOn ho hd hw hc

end Kept

end Session

end Fanout
