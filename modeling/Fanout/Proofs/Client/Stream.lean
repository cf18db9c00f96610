import Fanout.Proofs.Client.Run

/-!
The texts of the application on their way from requests over the buffer to the wire. None is sent
twice or out of order, and only a full buffer loses one.
-/
namespace Fanout

namespace Wire

/-- The texts of the application that were sent, over all connections. -/
def texts (w : Wire) : List String :=
  w.sent.filterMap fun p =>
    match p.2 with
    | .message t => some t
    | .frame _ => none

theorem send_cases (w : Wire) (p : Payload) :
    w.send p = (false, w) ∨
      ∃ w', w.send p = (true, w') ∧ w'.sent = w.sent ++ [(w.connection, p)] := by
  unfold send
  split_ifs
  · exact .inl rfl
  · exact .inr ⟨_, rfl, rfl⟩

theorem send_frame_texts (w : Wire) (f : ClientFrame) : (w.send (.frame f)).2.texts = w.texts := by
  obtain h | ⟨w', h, hs⟩ := w.send_cases (.frame f)
  · rw [h]
  · simp [h, texts, hs]

theorem send_message_texts {w w' : Wire} {text : String} (h : w.send (.message text) = (true, w')) :
    w'.texts = w.texts ++ [text] := by
  obtain h' | ⟨w₁, h', hs⟩ := w.send_cases (.message text)
  · simp [h'] at h
  · obtain rfl : w₁ = w' := by simpa [h'] using h
    simp [texts, hs]

theorem send_message_failed {w w' : Wire} {text : String}
    (h : w.send (.message text) = (false, w')) : w' = w := by
  obtain h' | ⟨w₁, h', -⟩ := w.send_cases (.message text)
  · simpa [h', eq_comm] using h
  · simp [h'] at h

end Wire

namespace Session

theorem askAgain_texts (w : Wire) (fs : List Filter) : (askAgain w fs).2.texts = w.texts := by
  induction fs generalizing w with
  | nil => rfl
  | cons f rest ih =>
    have hf := w.send_frame_texts (.subscription .subscribe f.toSpec)
    unfold askAgain
    split
    · rename_i w' hw
      rw [ih, ← hf, hw]
    · rename_i w' hw
      rw [← hf, hw]

/-- What can be left of a buffer, from which messages are taken one by one, has room for the last one
taken. -/
theorem pushFront_after_pop {b : Buffer} {before rest : List String} {text : String}
    (hsize : b.size ≤ b.capacity) (hm : b.messages = before ++ text :: rest) :
    ({ b with messages := rest } : Buffer).pushFront text =
      (false, { b with messages := text :: rest }) := by
  have hroom : ¬ b.capacity ≤ rest.length := by
    simp only [Buffer.size, hm, List.length_append, List.length_cons] at hsize
    omega
  simp [Buffer.pushFront, Buffer.isFull, hroom]

/-- Flushing sends messages off the front of the buffer and leaves the others, all of them or, if it
succeeds, none. -/
theorem flush_spec {n : Nat} {b b' : Buffer} {w w' : Wire} {ok : Bool}
    (h : flush n b w = (ok, b', w')) (hsize : b.size ≤ b.capacity) :
    ∃ popped, b.messages = popped ++ b'.messages ∧ w'.texts = w.texts ++ popped ∧
      b'.capacity = b.capacity ∧ b'.dropped = b.dropped ∧
      (ok = true → b.size ≤ n → b'.messages = []) := by
  induction n generalizing b w with
  | zero =>
    obtain ⟨rfl, rfl, rfl⟩ : true = ok ∧ b = b' ∧ w = w' := by simpa [flush] using h
    exact ⟨[], by simp, by simp, rfl, rfl, fun _ hn => List.length_eq_zero_iff.mp (by
      simpa [Buffer.size] using hn)⟩
  | succ n ih =>
    cases hm : b.messages with
    | nil =>
      obtain ⟨rfl, rfl, rfl⟩ : true = ok ∧ { b with messages := [] } = b' ∧ w = w' := by
        simpa [flush, Buffer.pop, hm] using h
      exact ⟨[], by simp, by simp, rfl, rfl, fun _ _ => rfl⟩
    | cons text rest =>
      have hlen : rest.length + 1 ≤ b.capacity := by
        simpa [Buffer.size, hm] using hsize
      cases hs : w.send (.message text) with
      | mk sent w₁ =>
        cases sent with
        | false =>
          have hw := Wire.send_message_failed hs
          have hback := @pushFront_after_pop b [] rest text hsize hm
          obtain ⟨rfl, rfl, rfl⟩ :
              false = ok ∧ { b with messages := text :: rest } = b' ∧ w₁ = w' := by
            simpa [flush, Buffer.pop, hm, hs, hback] using h
          exact ⟨[], by simp, by simp [hw], rfl, rfl, by simp⟩
        | true =>
          have hrec : flush n { b with messages := rest } w₁ = (ok, b', w') := by
            simpa [flush, Buffer.pop, hm, hs] using h
          obtain ⟨popped, hp, ht, hcap, hdrop, hempty⟩ := ih hrec (by
            simp only [Buffer.size]
            omega)
          refine ⟨text :: popped, by simpa using hp, ?_, hcap, hdrop, fun hok hn => ?_⟩
          · rw [ht, Wire.send_message_texts hs]
            simp
          · refine hempty hok ?_
            simp only [Buffer.size, hm, List.length_cons] at hn ⊢
            omega

/-- What an occasion does to the texts kept and sent, as long as the session stays open. -/
inductive Effect (o : Occasion) (s : Session) (w : Wire) (s' : Session) (w' : Wire) : Prop where
  | quiet (ho : ∀ text, o ≠ .request (.send text)) (hc : s'.isConnected → s.isConnected)
      (hb : s'.buffer = s.buffer) (hw : w'.texts = w.texts)
  | kept (text : String) (ho : o = .request (.send text)) (hc : s.isConnected = false)
      (hc' : s'.isConnected = false) (hb : s'.buffer = (s.buffer.push text).2)
      (hw : w'.texts = w.texts)
  | sent (text : String) (ho : o = .request (.send text)) (hc : s.isConnected)
      (hb : s'.buffer = s.buffer) (hw : w'.texts = w.texts ++ [text])
  | putBack (text : String) (ho : o = .request (.send text)) (hc : s.isConnected)
      (hc' : s'.isConnected = false) (hb : s'.buffer = (s.buffer.pushFront text).2)
      (hw : w'.texts = w.texts)
  | flushed (ho : ∀ text, o ≠ .request (.send text)) (ok : Bool) (w₁ : Wire)
      (hw : w₁.texts = w.texts) (hf : flush s.buffer.size s.buffer w₁ = (ok, s'.buffer, w'))
      (hc' : s'.isConnected → ok = true)

variable {s s' : Session} {w w' : Wire} {now : Nat} {random : Float}

theorem offline_effect (c : Command) (hc : s.isConnected = false) (ho : (s.offline c).isOpen) :
    Effect (.request c) s w (s.offline c) w := by
  cases c with
  | connect => exact .quiet (by simp) id rfl rfl
  | send text =>
    exact .kept text rfl hc (by simpa [offline, isConnected] using hc) (by simp [offline]) rfl
  | subscribe f =>
    exact .quiet (by simp) (by simp [offline, isConnected]) (by simp [offline]) rfl
  | unsubscribe f =>
    exact .quiet (by simp) (by simp [offline, isConnected]) (by simp [offline]) rfl
  | close ticket => simp [offline, isOpen] at ho
  | orphaned => simp [offline, isOpen] at ho

theorem sendFrame_effect {o : Occasion} {s₁ : Session} {f : ClientFrame}
    (hn : ∀ text, o ≠ .request (.send text)) (hb : s₁.buffer = s.buffer) (hc : s.isConnected)
    (ho : (s₁.sendFrame w now random f).1.isOpen) :
    Effect o s w (s₁.sendFrame w now random f).1 (s₁.sendFrame w now random f).2 := by
  have hf := w.send_frame_texts f
  unfold sendFrame at ho ⊢
  split at ho <;> rename_i w₁ hs
  · exact .quiet hn (fun _ => hc) hb (by rw [← hf, hs])
  · obtain ⟨-, hlost⟩ := lost_of_isOpen ho
    exact .quiet hn (fun _ => hc) (hlost.trans hb) (by rw [← hf, hs])

theorem online_effect (c : Command) (hc : s.isConnected)
    (ho : (s.online w now random c).1.isOpen) :
    Effect (.request c) s w (s.online w now random c).1 (s.online w now random c).2 := by
  cases c with
  | connect => exact .quiet (by simp) id rfl rfl
  | send text =>
    simp only [online] at ho ⊢
    split at ho <;> rename_i w₁ hs
    · exact .sent text rfl hc rfl (Wire.send_message_texts hs)
    · obtain ⟨hcl, hlost⟩ := lost_of_isOpen ho
      exact .putBack text rfl hc hcl hlost (by rw [Wire.send_message_failed hs])
  | subscribe f =>
    simp only [online] at ho ⊢
    split at ho <;> rename_i s₁ hs
    · exact sendFrame_effect (by simp) (by simpa [hs] using s.want_buffer f) hc ho
    · exact .quiet (by simp) (fun _ => hc) (by simpa [hs] using s.want_buffer f) rfl
  | unsubscribe f =>
    simp only [online] at ho ⊢
    split at ho <;> rename_i s₁ hs
    · exact sendFrame_effect (by simp) (by simpa [hs] using s.unwant_buffer f) hc ho
    · exact .quiet (by simp) (fun _ => hc) (by simpa [hs] using s.unwant_buffer f) rfl
  | close ticket => simp [online, isOpen] at ho
  | orphaned => simp [online, isOpen] at ho

theorem handle_effect (c : Command) (ho : (s.handle w now random c).1.isOpen) :
    Effect (.request c) s w (s.handle w now random c).1 (s.handle w now random c).2 := by
  unfold handle at ho ⊢
  cases hp : s.phase with
  | idle =>
    simp only [hp] at ho ⊢
    cases c with
    | connect => exact .quiet (by simp) (by simp [dial, isConnected]) (by simp [dial]) rfl
    | send | subscribe | unsubscribe | close | orphaned =>
      exact offline_effect _ (by simp [isConnected, hp]) ho
  | connecting | waiting =>
    simp only [hp] at ho ⊢
    exact offline_effect c (by simp [isConnected, hp]) ho
  | connected h =>
    simp only [hp] at ho ⊢
    exact online_effect c (by simp [isConnected, hp]) ho
  | givingUp | ended =>
    simp only [hp] at ho
    cases c <;> simp [isOpen, hp] at ho

/-- A handshake that succeeded asks again for filters and flushes the buffer. -/
theorem connected_effect (sends : Option Nat)
    (ho : (s.connected (w.renew sends) now random).1.isOpen) :
    Effect (.accepted sends) s w (s.connected (w.renew sends) now random).1
      (s.connected (w.renew sends) now random).2 := by
  have hagain := askAgain_texts (w.renew sends)
    (setState { s with backoff := s.backoff.reset } .connected).desired
  unfold connected at ho ⊢
  dsimp only at ho ⊢
  split at ho <;> rename_i w₁ hw₁
  · obtain ⟨hcl, hlost⟩ := lost_of_isOpen ho
    rw [hw₁] at hagain
    exact .quiet (by simp) (fun hc => absurd hc (ne_true_of_eq_false hcl))
      (hlost.trans (by simp)) hagain
  · rw [hw₁] at hagain
    split at ho <;> rename_i b w₂ hf
    · obtain ⟨hcl, hlost⟩ := lost_of_isOpen ho
      refine .flushed (by simp) false w₁ hagain ?_ (fun hc => absurd hc (ne_true_of_eq_false hcl))
      rw [hlost]
      simpa using hf
    · exact .flushed (by simp) true w₁ hagain (by simpa using hf) (fun _ => rfl)

theorem receive_effect {h : Heartbeat} (hp : s.phase = .connected h) (text : String) :
    Effect (.arrived text) s w (s.receive h now text) w := by
  have hc : s.isConnected := by simp [isConnected, hp]
  refine .quiet (by simp) (fun _ => hc) ?_ rfl
  unfold receive
  split
  · rename_i f _
    cases f with
    | event | ack | error => simp [receiveFrame]
    | pong id =>
      simp only [receiveFrame, answerPing]
      split <;> simp
  · simp

theorem tick_effect (h : s.tick w now random = some (s', w')) (ho : s'.isOpen) :
    Effect .clock s w s' w' := by
  unfold tick at h
  split at h
  · rename_i deadline hp
    split_ifs at h
    obtain ⟨rfl, rfl⟩ := Prod.mk.inj (Option.some.inj h)
    obtain ⟨hcl, hb⟩ := retryLater_of_isOpen ho
    exact .quiet (by simp) (fun hc => absurd hc (ne_true_of_eq_false hcl)) hb rfl
  · split_ifs at h
    obtain ⟨rfl, rfl⟩ := Prod.mk.inj (Option.some.inj h)
    exact .quiet (by simp) (by simp [dial, isConnected]) (by simp [dial]) rfl
  · rename_i hb hp
    have hc : s.isConnected := by simp [isConnected, hp]
    split_ifs at h
    · obtain ⟨rfl, rfl⟩ := Prod.mk.inj (Option.some.inj h)
      refine .quiet (by simp) (fun _ => hc) ?_ rfl
      unfold expirePing at ho ⊢
      dsimp only at ho ⊢
      split_ifs at ho ⊢
      · exact (retryLater_of_isOpen ho).2
      · rfl
    · obtain ⟨rfl, rfl⟩ := Prod.mk.inj (Option.some.inj h)
      exact sendFrame_effect (by simp) rfl hc ho
  · cases h

/-- All that can happen to the texts of an open session. -/
theorem respond_effect {o : Occasion} (h : respond o now random s w = some (s', w'))
    (ho : s'.isOpen) : Effect o s w s' w' := by
  unfold respond at h
  split at h
  · obtain ⟨rfl, rfl⟩ := Prod.mk.inj (Option.some.inj h)
    exact handle_effect _ ho
  · obtain ⟨rfl, rfl⟩ := Prod.mk.inj (Option.some.inj h)
    exact connected_effect _ ho
  · obtain ⟨rfl, rfl⟩ := Prod.mk.inj (Option.some.inj h)
    obtain ⟨hcl, hb⟩ := retryLater_of_isOpen ho
    exact .quiet (by simp) (fun hc => absurd hc (ne_true_of_eq_false hcl)) hb rfl
  · rename_i hp
    obtain ⟨rfl, rfl⟩ := Prod.mk.inj (Option.some.inj h)
    exact receive_effect hp _
  · obtain ⟨rfl, rfl⟩ := Prod.mk.inj (Option.some.inj h)
    obtain ⟨hcl, hb⟩ := lost_of_isOpen ho
    exact .quiet (by simp) (fun hc => absurd hc (ne_true_of_eq_false hcl)) hb rfl
  · exact tick_effect h ho
  · obtain ⟨s₁, hs, he⟩ := Option.map_eq_some_iff.mp h
    obtain ⟨rfl, rfl⟩ := Prod.mk.inj he
    simp [isOpen, signal_phase hs] at ho
  · obtain ⟨rfl, rfl⟩ := Prod.mk.inj (Option.some.inj h)
    exact .quiet (by simp) id rfl rfl
  · obtain ⟨rfl, rfl⟩ := Prod.mk.inj (Option.some.inj h)
    exact .quiet (by simp) id rfl rfl
  · obtain ⟨rfl, rfl⟩ := Prod.mk.inj (Option.some.inj h)
    exact .quiet (by simp) id rfl rfl
  · cases h

/-- `whole` is `kept` and `gone` merged, each in its order. -/
inductive Merged {α : Type} : (whole kept gone : List α) → Prop where
  | nil : Merged [] [] []
  | keep {whole kept gone : List α} (a : α) :
      Merged whole kept gone → Merged (whole ++ [a]) (kept ++ [a]) gone
  | lose {whole kept gone : List α} (a : α) :
      Merged whole kept gone → Merged (whole ++ [a]) kept (gone ++ [a])

namespace Merged

variable {α : Type} {whole kept gone : List α}

theorem keepAll (h : Merged whole kept gone) (as : List α) :
    Merged (whole ++ as) (kept ++ as) gone := by
  induction as generalizing whole kept with
  | nil => simpa using h
  | cons a as ih =>
    have := ih (h.keep a)
    simpa using this

theorem sublist (h : Merged whole kept gone) : kept.Sublist whole := by
  induction h with
  | nil => exact .slnil
  | keep a _ ih => exact ih.append (.refl _)
  | lose a _ ih => exact ih.trans (List.sublist_append_left _ _)

theorem length (h : Merged whole kept gone) : whole.length = kept.length + gone.length := by
  induction h with
  | nil => rfl
  | keep a _ ih =>
    simp only [List.length_append, List.length_singleton]
    omega
  | lose a _ ih =>
    simp only [List.length_append, List.length_singleton]
    omega

end Merged

structure Traffic where
  session : Session
  wire : Wire := {}
  asked : List String := []
  evicted : List String := []

namespace Traffic

/-- The text that makes room for another one when that is kept without a connection. -/
def makesRoom (s : Session) (text : String) : List String :=
  if !s.isConnected && (s.buffer.push text).1 then s.buffer.messages.head?.toList else []

/-- Notes what came of an occasion. A closed session is not asked for anything. -/
def note (t : Traffic) (o : Occasion) (s : Session) (w : Wire) : Traffic :=
  match o with
  | .request (.send text) =>
    if t.session.isOpen then
      ⟨s, w, t.asked ++ [text], t.evicted ++ makesRoom t.session text⟩
    else { t with session := s, wire := w }
  | _ => { t with session := s, wire := w }

def step (t : Traffic) (o : Occasion) (now : Nat) (random : Float) : Traffic :=
  match respond o now random t.session t.wire with
  | some (s, w) => t.note o s w
  | none => t

inductive Reachable (config : SessionConfig) : Traffic → Prop where
  | start : Reachable config { session := .new config }
  | next {t : Traffic} (o : Occasion) (now : Nat) (random : Float) :
      Reachable config t → Reachable config (t.step o now random)

/-- The buffer holds the latest texts; those before were sent or lost. -/
structure Sound (t : Traffic) : Prop where
  capacity : 0 < t.session.buffer.capacity
  size : t.session.buffer.size ≤ t.session.buffer.capacity
  flushed : t.session.isConnected → t.session.buffer.messages = []
  dropped : t.session.buffer.dropped = t.evicted.length
  stream : ∃ past, t.asked = past ++ t.session.buffer.messages ∧
    Merged past t.wire.texts t.evicted

theorem sound_start (config : SessionConfig) : Sound { session := .new config } where
  capacity := Nat.le_max_right _ _
  size := by simp [Session.new, Buffer.new, Buffer.size]
  flushed := fun _ => rfl
  dropped := rfl
  stream := ⟨[], rfl, .nil⟩

theorem note_quiet {o : Occasion} (ho : ∀ text, o ≠ .request (.send text)) (t : Traffic)
    (s : Session) (w : Wire) : t.note o s w = { t with session := s, wire := w } := by
  unfold note
  split
  · exact absurd rfl (ho _)
  · rfl

theorem note_send {t : Traffic} (hopen : t.session.isOpen) (text : String) (s : Session)
    (w : Wire) :
    t.note (.request (.send text)) s w =
      ⟨s, w, t.asked ++ [text], t.evicted ++ makesRoom t.session text⟩ := by
  simp [note, hopen]

/-- A text kept in a full buffer costs the oldest one there. -/
theorem Sound.keep {t : Traffic} (h : t.Sound) {text : String} {s : Session} {w : Wire}
    (hc : t.session.isConnected = false) (hc' : s.isConnected = false)
    (hb : s.buffer = (t.session.buffer.push text).2) (hw : w.texts = t.wire.texts) :
    Sound ⟨s, w, t.asked ++ [text], t.evicted ++ makesRoom t.session text⟩ := by
  obtain ⟨past, hasked, hm⟩ := h.stream
  have hcap := h.capacity
  have hsize := h.size
  have hnc : s.isConnected → s.buffer.messages = [] := fun hcon => absurd hcon
    (ne_true_of_eq_false hc')
  by_cases hfull : t.session.buffer.isFull
  · have hlen : t.session.buffer.capacity ≤ t.session.buffer.messages.length := by
      simpa [Buffer.isFull] using hfull
    cases hmsg : t.session.buffer.messages with
    | nil => simp [hmsg] at hlen; omega
    | cons oldest rest =>
      have hpush : t.session.buffer.push text = (true, { t.session.buffer with
          messages := rest ++ [text], dropped := t.session.buffer.dropped + 1 }) := by
        simp [Buffer.push, hfull, hmsg]
      have hroom : makesRoom t.session text = [oldest] := by
        simp [makesRoom, hc, hpush, hmsg]
      rw [hpush] at hb
      rw [Buffer.size, hmsg] at hsize
      refine ⟨by simpa [hb] using hcap, ?_, hnc, ?_, past ++ [oldest], ?_, ?_⟩
      · simpa [hb, Buffer.size] using hsize
      · simp [hb, hroom, h.dropped]
      · simp [hb, hasked, hmsg]
      · rw [hroom, hw]
        exact hm.lose oldest
  · have hlen : t.session.buffer.messages.length < t.session.buffer.capacity := by
      simpa [Buffer.isFull] using hfull
    have hpush : t.session.buffer.push text = (false, { t.session.buffer with
        messages := t.session.buffer.messages ++ [text] }) := by
      simp [Buffer.push, hfull]
    have hroom : makesRoom t.session text = [] := by simp [makesRoom, hpush]
    rw [hpush] at hb
    refine ⟨by simpa [hb] using hcap, ?_, hnc, ?_, past, ?_, ?_⟩
    · simp [hb, Buffer.size]
      omega
    · simp [hb, hroom, h.dropped]
    · simp [hb, hasked]
    · rw [hroom, hw, List.append_nil]
      exact hm

theorem Sound.pushFront {t : Traffic} (h : t.Sound) (hc : t.session.isConnected) (text : String) :
    t.session.buffer.pushFront text = (false, { t.session.buffer with messages := [text] }) := by
  have hfull : t.session.buffer.isFull = false := by
    have hcap := h.capacity
    simp only [Buffer.isFull, h.flushed hc, List.length_nil, decide_eq_false_iff_not]
    omega
  simp [Buffer.pushFront, hfull, h.flushed hc]

theorem Sound.note {t : Traffic} (h : t.Sound) (hopen : t.session.isOpen) {o : Occasion}
    {s : Session} {w : Wire} (he : Effect o t.session t.wire s w) : (t.note o s w).Sound := by
  obtain ⟨past, hasked, hm⟩ := h.stream
  cases he with
  | quiet ho hc hb hw =>
    rw [note_quiet ho]
    exact ⟨hb ▸ h.capacity, hb ▸ h.size, fun hcon => hb ▸ h.flushed (hc hcon), hb ▸ h.dropped,
      past, hb ▸ hasked, hw ▸ hm⟩
  | kept text ho hc hc' hb hw =>
    rw [ho, note_send hopen]
    exact h.keep hc hc' hb hw
  | sent text ho hc hb hw =>
    have hempty := h.flushed hc
    have hroom : makesRoom t.session text = [] := by simp [makesRoom, hc]
    rw [ho, note_send hopen, hroom, List.append_nil]
    refine ⟨hb ▸ h.capacity, hb ▸ h.size, fun _ => hb ▸ hempty, hb ▸ h.dropped, past ++ [text],
      ?_, ?_⟩
    · simp [hb, hempty, hasked]
    · rw [hw]
      exact hm.keep text
  | putBack text ho hc hc' hb hw =>
    have hempty := h.flushed hc
    have hroom : makesRoom t.session text = [] := by simp [makesRoom, hc]
    rw [h.pushFront hc] at hb
    rw [ho, note_send hopen, hroom, List.append_nil]
    refine ⟨by simpa [hb] using h.capacity, ?_, fun hcon => absurd hcon (ne_true_of_eq_false hc'),
      by simpa [hb] using h.dropped, past, ?_, hw ▸ hm⟩
    · rw [hb]
      exact h.capacity
    · simp [hb, hempty, hasked]
  | flushed ho ok w₁ hw hf hc' =>
    obtain ⟨popped, hp, ht, hcap, hdrop, hempty⟩ := flush_spec hf h.size
    have hsize := h.size
    rw [note_quiet ho]
    refine ⟨hcap ▸ h.capacity, ?_, fun hcon => hempty (hc' hcon) (Nat.le_refl _), hdrop ▸ h.dropped,
      past ++ popped, ?_, ?_⟩
    · simp only [Buffer.size, hp, List.length_append] at hsize ⊢
      omega
    · simp [hasked, hp]
    · rw [ht, hw]
      exact hm.keepAll popped

theorem sound_of_reachable {config : SessionConfig} {t : Traffic} (h : Reachable config t)
    (hopen : t.session.isOpen) : t.Sound := by
  induction h with
  | start => exact sound_start config
  | @next t o now random _ ih =>
    unfold step at hopen ⊢
    split at hopen <;> rename_i hr
    · rename_i s w
      have hs : (t.note o s w).session = s := by
        unfold Traffic.note
        split <;> try split_ifs
        all_goals rfl
      rw [hs] at hopen
      have hopen₀ := isOpen_of_respond hr hopen
      exact (ih hopen₀).note hopen₀ (respond_effect hr hopen)
    · exact ih hopen

/-- Over any run of a session that is still open, the texts sent on all connections and then those in
the buffer are the texts asked for, in order, less those that a full buffer lost while there was no
connection, which it counts. Putting a text back never loses it, neither while connected, when the
buffer is empty, nor while flushing. -/
theorem stream_intact {config : SessionConfig} {t : Traffic} (h : Reachable config t)
    (hopen : t.session.isOpen) :
    Merged t.asked (t.wire.texts ++ t.session.buffer.messages) t.evicted ∧
    (t.wire.texts ++ t.session.buffer.messages).Sublist t.asked ∧
    t.asked.length =
      (t.wire.texts ++ t.session.buffer.messages).length + t.session.buffer.dropped ∧
    t.session.buffer.dropped = t.evicted.length ∧
    (t.session.isConnected → t.session.buffer.messages = [] ∧
      ∀ text, (t.session.buffer.pushFront text).1 = false) ∧
    ∀ before text rest, t.session.buffer.messages = before ++ text :: rest →
      (({ t.session.buffer with messages := rest } : Buffer).pushFront text).1 = false := by
  have hs := sound_of_reachable h hopen
  obtain ⟨past, hasked, hm⟩ := hs.stream
  have hall : Merged t.asked (t.wire.texts ++ t.session.buffer.messages) t.evicted :=
    hasked ▸ hm.keepAll _
  refine ⟨hall, hall.sublist, hs.dropped ▸ hall.length, hs.dropped,
    fun hc => ⟨hs.flushed hc, ?_⟩, ?_⟩
  · intro text
    rw [hs.pushFront hc]
  · intro before text rest hmsg
    rw [pushFront_after_pop hs.size hmsg]

/-- A buffer for one text loses the first of two, and a send that fails loses none. -/
theorem stream_intact_small_buffer :
    let config : SessionConfig := { url := "ws://h", sessionId := "s", bufferCapacity := 1 }
    let t₀ : Traffic := { session := .new config }
    let t₁ := (t₀.step (.request (.send "a")) 0 0).step (.request (.send "b")) 0 0
    let t₂ := (t₁.step (.request .connect) 0 0).step (.accepted none) 1 0
    let t := ((t₂.step (.request (.send "c")) 2 0).step (.failing (some 0)) 3 0).step
      (.request (.send "d")) 4 0
    t.session.isOpen = true ∧ t.asked = ["a", "b", "c", "d"] ∧ t.wire.texts = ["b", "c"] ∧
      t.session.buffer.messages = ["d"] ∧ t.evicted = ["a"] ∧
      Merged t.asked (t.wire.texts ++ t.session.buffer.messages) t.evicted := by
  intro config t₀ t₁ t₂ t
  have h : Reachable config t :=
    .next _ _ _ (.next _ _ _ (.next _ _ _ (.next _ _ _ (.next _ _ _ (.next _ _ _ (.next _ _ _
      .start))))))
  have hopen : t.session.isOpen = true := by decide +kernel
  have hasked : t.asked = ["a", "b", "c", "d"] := by decide +kernel
  have hsent : t.wire.texts = ["b", "c"] := by decide +kernel
  have hkept : t.session.buffer.messages = ["d"] := by decide +kernel
  have hlost : t.evicted = ["a"] := by decide +kernel
  exact ⟨hopen, hasked, hsent, hkept, hlost, (stream_intact h hopen).1⟩

end Traffic

end Session

end Fanout
