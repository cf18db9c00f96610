import Fanout.Proofs.Client.Beats
import Fanout.Proofs.Keyed

/-!
What becomes of the pings of a session. Main statement: while a session is connected it keeps just the
pings of that connection that neither had an answer nor waited too long, and it gives the connection up
at the first ping that makes too many without an answer between them.
-/
namespace Fanout.Session

structure Ping where
  /-- Counted from one, over all connections. -/
  number : Nat
  sentAt : Nat

namespace Ping

def id (p : Ping) : UInt64 := .ofNat p.number

def entry (p : Ping) : UInt64 × Nat := (p.id, p.sentAt)

variable {ps : List Ping} {p : Ping} {id : UInt64}

theorem toNat_id (hp : p.number < UInt64.size) : p.id.toNat = p.number :=
  UInt64.toNat_ofNat_of_lt' hp

theorem get?_entries (id : UInt64) (ps : List Ping) :
    Keyed.get? id (ps.map entry) = (ps.find? fun p => p.id = id).map sentAt := by
  induction ps with
  | nil => rfl
  | cons p ps ih =>
    by_cases hp : p.id = id
    · simp [Keyed.get?, entry, hp]
    · simp [Keyed.get?, entry, hp, ih]

theorem filter_ne_head (hps : (p :: ps).Pairwise fun p q => p.number < q.number) :
    ((p :: ps).filter fun q => q.number ≠ p.number) = ps := by
  have hlater := (List.pairwise_cons.mp hps).1
  rw [List.filter_cons_of_neg (by simp), List.filter_eq_self]
  intro q hq
  have := hlater q hq
  exact decide_eq_true (by omega)

theorem erase_entries (hps : ps.Pairwise fun p q => p.number < q.number)
    (hp : (ps.find? fun q => q.id = id) = some p) :
    Keyed.erase id (ps.map entry) = (ps.filter fun q => q.number ≠ p.number).map entry := by
  induction ps with
  | nil => cases hp
  | cons q ps ih =>
    by_cases hq : q.id = id
    · rw [List.find?_cons_of_pos (by simpa using hq)] at hp
      obtain rfl := Option.some.inj hp
      rw [filter_ne_head hps]
      simp [Keyed.erase, entry, hq]
    · rw [List.find?_cons_of_neg (by simpa using hq)] at hp
      obtain ⟨hlater, hps⟩ := List.pairwise_cons.mp hps
      have hne : q.number ≠ p.number := Nat.ne_of_lt (hlater p (List.mem_of_find?_eq_some hp))
      rw [List.filter_cons_of_pos (by simpa using hne), List.map_cons, List.map_cons, ← ih hps hp]
      simp [Keyed.erase, entry, hq]

end Ping

inductive Mark where
  | sent (p : Ping)
  | answered (number : Nat)
  /-- The ping waited too long for an answer. -/
  | expired (number : Nat)

namespace Mark

def sent? : Mark → Option Ping
  | .sent p => some p
  | _ => none

def answered? : Mark → Option Nat
  | .answered number => some number
  | _ => none

def expired? : Mark → Option Nat
  | .expired number => some number
  | _ => none

end Mark

structure Chart where
  /-- Pings sent so far, over all connections. -/
  count : Nat := 0
  /-- Those of them sent before this connection began. -/
  first : Nat := 0
  /-- What became of the pings of this connection, in the order in which it happened. -/
  marks : List Mark := []

namespace Chart

def mark (c : Chart) (m : Mark) : Chart := { c with marks := c.marks ++ [m] }

def sent (c : Chart) : List Ping := c.marks.filterMap Mark.sent?

def answered (c : Chart) : List Nat := c.marks.filterMap Mark.answered?

def expired (c : Chart) : List Nat := c.marks.filterMap Mark.expired?

/-- The pings that neither had an answer nor waited too long. -/
def pending (c : Chart) : List Ping :=
  c.sent.filter fun p => p.number ∉ c.answered ∧ p.number ∉ c.expired

/-- The pings that waited too long since the last answer. -/
def misses (c : Chart) : Nat :=
  (c.marks.reverse.takeWhile fun m => m.answered?.isNone).countP fun m => m.expired?.isSome

/-- What is noted of a beat, given how long a ping may wait. A pong answers the pending ping with its
number, if there is one. -/
def note (c : Chart) (timeout now : Nat) : Beat → Chart
  | .ping => { c.mark (.sent ⟨c.count + 1, now⟩) with count := c.count + 1 }
  | .expire =>
    match c.pending.find? fun p => p.sentAt + timeout ≤ now with
    | some p => c.mark (.expired p.number)
    | none => c
  | .other o =>
    if o.isHandshake then { count := c.count, first := c.count }
    else match o.pong? with
      | some id =>
        match c.pending.find? fun p => p.id = id with
        | some p => c.mark (.answered p.number)
        | none => c
      | none => c

variable {c : Chart} {p : Ping} {n : Nat}

theorem note_count (c : Chart) (timeout now : Nat) (b : Beat) :
    (c.note timeout now b).count = if b.isPing then c.count + 1 else c.count := by
  cases b with
  | ping => rfl
  | expire =>
    simp only [note]
    split <;> rfl
  | other o =>
    change (c.note timeout now (.other o)).count = c.count
    simp only [note]
    split_ifs
    · rfl
    · split
      · split <;> rfl
      · rfl

theorem mem_pending : p ∈ c.pending ↔ p ∈ c.sent ∧ p.number ∉ c.answered ∧ p.number ∉ c.expired := by
  simp [pending]

theorem sent_mark (m : Mark) : (c.mark m).sent = c.sent ++ m.sent?.toList := by
  cases h : m.sent? <;> simp [sent, mark, h]

theorem answered_mark (m : Mark) : (c.mark m).answered = c.answered ++ m.answered?.toList := by
  cases h : m.answered? <;> simp [answered, mark, h]

theorem expired_mark (m : Mark) : (c.mark m).expired = c.expired ++ m.expired?.toList := by
  cases h : m.expired? <;> simp [expired, mark, h]

theorem pending_sent (ha : p.number ∉ c.answered) (he : p.number ∉ c.expired) :
    (c.mark (.sent p)).pending = c.pending ++ [p] := by
  simp [pending, sent_mark, answered_mark, expired_mark, Mark.sent?, Mark.answered?, Mark.expired?,
    ha, he]

theorem sent_settled {m : Mark} (hm : m = .answered n ∨ m = .expired n) :
    (c.mark m).sent = c.sent := by
  rw [sent_mark]
  rcases hm with rfl | rfl
  · exact List.append_nil _
  · exact List.append_nil _

theorem perm_settled {m : Mark} (hm : m = .answered n ∨ m = .expired n) :
    ((c.mark m).answered ++ (c.mark m).expired).Perm (n :: (c.answered ++ c.expired)) := by
  rw [answered_mark, expired_mark]
  rcases hm with rfl | rfl
  · simp [Mark.answered?, Mark.expired?, List.perm_middle]
  · simp only [Mark.answered?, Mark.expired?, Option.toList_none, Option.toList_some,
      List.append_nil, ← List.append_assoc]
    exact List.perm_append_singleton _ _

/-- A ping that had an answer or waited too long is pending no more. -/
theorem pending_settled {m : Mark} (hm : m = .answered n ∨ m = .expired n) :
    (c.mark m).pending = c.pending.filter fun p => p.number ≠ n := by
  have hmem (k : Nat) : k ∈ (c.mark m).answered ++ (c.mark m).expired ↔
      k = n ∨ k ∈ c.answered ++ c.expired := (perm_settled hm).mem_iff.trans List.mem_cons
  unfold pending
  rw [List.filter_filter, sent_settled hm]
  refine List.filter_congr fun p _ => ?_
  have hp := hmem p.number
  simp only [List.mem_append] at hp
  grind

theorem misses_sent (p : Ping) : (c.mark (.sent p)).misses = c.misses := by
  simp [misses, mark, Mark.answered?, Mark.expired?]

theorem misses_answered (n : Nat) : (c.mark (.answered n)).misses = 0 := by
  simp [misses, mark, Mark.answered?]

theorem misses_expired (n : Nat) : (c.mark (.expired n)).misses = c.misses + 1 := by
  simp [misses, mark, Mark.answered?, Mark.expired?]

structure Sound (c : Chart) (clock : Nat) : Prop where
  first_le : c.first ≤ c.count
  ordered : c.sent.Pairwise fun p q => p.number < q.number ∧ p.sentAt ≤ q.sentAt
  range : ∀ p ∈ c.sent, c.first < p.number ∧ p.number ≤ c.count
  past : ∀ p ∈ c.sent, p.sentAt ≤ clock
  settled_sent : ∀ n ∈ c.answered ++ c.expired, ∃ p ∈ c.sent, p.number = n
  settled_once : (c.answered ++ c.expired).Nodup

namespace Sound

variable {clock now timeout : Nat}

theorem pending_ordered (h : c.Sound clock) :
    c.pending.Pairwise fun p q => p.number < q.number ∧ p.sentAt ≤ q.sentAt := h.ordered.filter _

theorem mono (h : c.Sound clock) (hle : clock ≤ now) : c.Sound now :=
  { h with past := fun p hp => Nat.le_trans (h.past p hp) hle }

/-- A new connection begins. -/
theorem begins (count clock : Nat) : Sound { count, first := count } clock where
  first_le := Nat.le_refl _
  ordered := .nil
  range := by simp [sent]
  past := by simp [sent]
  settled_sent := by simp [answered, expired]
  settled_once := by simp [answered, expired]

theorem sends (h : c.Sound clock) (hle : clock ≤ now) :
    Sound { c.mark (.sent ⟨c.count + 1, now⟩) with count := c.count + 1 } now := by
  set new : Ping := ⟨c.count + 1, now⟩
  have hsent : (c.mark (.sent new)).sent = c.sent ++ [new] := sent_mark _
  have ha : (c.mark (.sent new)).answered = c.answered := by
    rw [answered_mark]
    exact List.append_nil _
  have he : (c.mark (.sent new)).expired = c.expired := by
    rw [expired_mark]
    exact List.append_nil _
  have hold : ∀ p ∈ c.sent, p.number < new.number ∧ p.sentAt ≤ new.sentAt := fun p hp =>
    ⟨Nat.lt_succ_of_le (h.range p hp).2, Nat.le_trans (h.past p hp) hle⟩
  constructor
  · exact Nat.le_succ_of_le h.first_le
  · change (c.mark (.sent new)).sent.Pairwise _
    rw [hsent, List.pairwise_append]
    refine ⟨h.ordered, List.pairwise_singleton _ _, ?_⟩
    intro p hp q hq
    rw [List.mem_singleton.mp hq]
    exact hold p hp
  · change ∀ p ∈ (c.mark (.sent new)).sent, c.first < p.number ∧ p.number ≤ c.count + 1
    rw [hsent]
    intro p hp
    rcases List.mem_append.mp hp with hp | hp
    · exact ⟨(h.range p hp).1, Nat.le_succ_of_le (h.range p hp).2⟩
    · rw [List.mem_singleton.mp hp]
      exact ⟨Nat.lt_succ_of_le h.first_le, Nat.le_refl _⟩
  · change ∀ p ∈ (c.mark (.sent new)).sent, p.sentAt ≤ now
    rw [hsent]
    intro p hp
    rcases List.mem_append.mp hp with hp | hp
    · exact (hold p hp).2
    · exact Nat.le_of_eq (congrArg Ping.sentAt (List.mem_singleton.mp hp))
  · change ∀ n ∈ (c.mark (.sent new)).answered ++ (c.mark (.sent new)).expired,
      ∃ p ∈ (c.mark (.sent new)).sent, p.number = n
    rw [ha, he, hsent]
    intro n hn
    obtain ⟨p, hp, hnumber⟩ := h.settled_sent n hn
    exact ⟨p, List.mem_append_left _ hp, hnumber⟩
  · change ((c.mark (.sent new)).answered ++ (c.mark (.sent new)).expired).Nodup
    rw [ha, he]
    exact h.settled_once

/-- A pending ping has an answer, or has waited too long. -/
theorem settles (h : c.Sound clock) (hp : p ∈ c.pending) {m : Mark}
    (hm : m = .answered p.number ∨ m = .expired p.number) : (c.mark m).Sound clock := by
  obtain ⟨hmem, ha, he⟩ := mem_pending.mp hp
  have hsent := sent_settled (c := c) hm
  have hsettled := perm_settled (c := c) hm
  constructor
  · exact h.first_le
  · rw [hsent]
    exact h.ordered
  · rw [hsent]
    exact h.range
  · rw [hsent]
    exact h.past
  · intro n hn
    rw [hsent]
    rcases List.mem_cons.mp (hsettled.mem_iff.mp hn) with rfl | hold
    · exact ⟨p, hmem, rfl⟩
    · exact h.settled_sent n hold
  · rw [hsettled.nodup_iff, List.nodup_cons, List.mem_append, not_or]
    exact ⟨⟨ha, he⟩, h.settled_once⟩

theorem note (h : c.Sound clock) (hle : clock ≤ now) (b : Beat) :
    (c.note timeout now b).Sound now := by
  unfold Chart.note
  split
  · exact h.sends hle
  · split
    · rename_i p hp
      exact (h.mono hle).settles (List.mem_of_find?_eq_some hp) (.inr rfl)
    · exact h.mono hle
  · split_ifs
    · exact .begins c.count now
    · split
      · split
        · rename_i p hp
          exact (h.mono hle).settles (List.mem_of_find?_eq_some hp) (.inl rfl)
        · exact h.mono hle
      · exact h.mono hle

end Sound

end Chart

structure Watch where
  session : Session
  wire : Wire := {}
  clock : Nat := 0
  chart : Chart := {}

namespace Watch

def start (config : SessionConfig) : Watch := { session := .new config }

/-- What comes of a beat. One that cannot come about only lets time pass. -/
def step (b : Beat) (now : Nat) (random : Float) (t : Watch) : Watch :=
  match beat b now random t.session t.wire with
  | some (s, w) => ⟨s, w, now, t.chart.note t.session.config.pongTimeoutMs now b⟩
  | none => { t with clock := now }

/-- What can come of a new session while the clock does not go back. -/
def Reachable (config : SessionConfig) : Watch → Prop :=
  Relation.ReflTransGen (fun t t' => ∃ b now random, t.clock ≤ now ∧ t' = t.step b now random)
    (start config)

def follow (random : Float) (bs : List (Beat × Nat)) (t : Watch) : Watch :=
  bs.foldl (fun t b => t.step b.1 b.2 random) t

theorem step_clock (b : Beat) (now : Nat) (random : Float) (t : Watch) :
    (t.step b now random).clock = now := by
  unfold step
  split <;> rfl

theorem reachable_follow {config : SessionConfig} (random : Float) {bs : List (Beat × Nat)} {t : Watch}
    (ht : Reachable config t) (hbs : (t.clock :: bs.map Prod.snd).IsChain (· ≤ ·)) :
    Reachable config (t.follow random bs) := by
  induction bs generalizing t with
  | nil => exact ht
  | cons b bs ih =>
    obtain ⟨hle, hrest⟩ := List.isChain_cons_cons.mp hbs
    refine ih (ht.tail ⟨b.1, b.2, random, hle, rfl⟩) ?_
    rw [step_clock]
    exact hrest

/-- What a connection keeps of its pings. -/
structure Tuned (config : SessionConfig) (t : Watch) (h : Heartbeat) : Prop where
  outstanding : h.outstanding = t.chart.pending.map Ping.entry
  missed : h.missed = t.chart.misses
  low : t.chart.misses < config.maxMissedPongs
  wire : t.wire.pings = t.chart.sent.map Ping.id

structure Attuned (config : SessionConfig) (t : Watch) : Prop where
  config_eq : t.session.config = config
  lastPing : t.session.lastPing = .ofNat t.chart.count
  numbered : t.wire.Numbered
  sound : t.chart.Sound t.clock
  tuned : ∀ h, t.session.phase = .connected h → Tuned config t h

variable {config : SessionConfig} {t : Watch} {h : Heartbeat} {o : Occasion} {now : Nat}

namespace Tuned

/-- A pong without a ping that waits for it leaves no mark. -/
theorem note_rests (ht : Tuned config t h) (ho : o.isHandshake = false) (timeout now : Nat)
    (hpong : ∀ id, o.pong? = some id → Keyed.get? id h.outstanding = none) :
    t.chart.note timeout now (.other o) = t.chart := by
  unfold Chart.note
  dsimp only
  rw [ho, if_neg Bool.false_ne_true]
  split
  · rename_i id hid
    have hnone := hpong id hid
    rw [ht.outstanding, Ping.get?_entries, Option.map_eq_none_iff] at hnone
    rw [hnone]
  · rfl

theorem note_answers (ht : Tuned config t h) (ho : o.isHandshake = false) (timeout now : Nat)
    {id : UInt64} (hpong : o.pong? = some id) (hid : (Keyed.get? id h.outstanding).isSome) :
    ∃ p, (t.chart.pending.find? fun p => p.id = id) = some p ∧
      t.chart.note timeout now (.other o) = t.chart.mark (.answered p.number) := by
  rw [ht.outstanding, Ping.get?_entries, Option.isSome_map] at hid
  obtain ⟨p, hp⟩ := Option.isSome_iff_exists.mp hid
  refine ⟨p, hp, ?_⟩
  unfold Chart.note
  dsimp only
  rw [ho, if_neg Bool.false_ne_true, hpong]
  dsimp only
  rw [hp]

/-- The ping at the front is the one that has waited too long. -/
theorem note_expires (ht : Tuned config t h) {timeout now : Nat}
    (hdue : ∃ p ∈ h.outstanding.head?, p.2 + timeout ≤ now) :
    ∃ p rest, t.chart.pending = p :: rest ∧
      t.chart.note timeout now .expire = t.chart.mark (.expired p.number) := by
  obtain ⟨e, he, hle⟩ := hdue
  rw [ht.outstanding, List.head?_map] at he
  obtain ⟨p, hp, rfl⟩ := Option.map_eq_some_iff.mp he
  obtain ⟨rest, hrest⟩ := List.head?_eq_some_iff.mp hp
  refine ⟨p, rest, hrest, ?_⟩
  unfold Chart.note
  dsimp only
  have hfind : ((p :: rest).find? fun p => p.sentAt + timeout ≤ now) = some p :=
    List.find?_cons_of_pos (decide_eq_true hle)
  rw [hrest, hfind]

end Tuned

namespace Attuned

theorem start (config : SessionConfig) : Attuned config (.start config) where
  config_eq := rfl
  lastPing := rfl
  numbered := by simp [Wire.Numbered, Watch.start]
  sound := .begins 0 0
  tuned := fun h hp => by cases hp

theorem ping_fresh (ht : Attuned config t) (now : Nat) :
    (t.chart.mark (.sent ⟨t.chart.count + 1, now⟩)).pending =
      t.chart.pending ++ [⟨t.chart.count + 1, now⟩] := by
  have hnew : t.chart.count + 1 ∉ t.chart.answered ++ t.chart.expired := by
    intro hmem
    obtain ⟨p, hp, hnumber⟩ := ht.sound.settled_sent _ hmem
    have hle := (ht.sound.range p hp).2
    omega
  rw [List.mem_append, not_or] at hnew
  exact Chart.pending_sent hnew.1 hnew.2

theorem lastPing_succ (ht : Attuned config t) :
    t.session.lastPing + 1 = .ofNat (t.chart.count + 1) := by
  rw [ht.lastPing, UInt64.ofNat_add]
  rfl

theorem not_connected {s : Session} (hs : s.isConnected = false) : s.phase ≠ .connected h := by
  intro hp
  simp [isConnected, hp] at hs

theorem tuned_answered (ht : Attuned config t) (htuned : Tuned config t h)
    (hmax : 1 ≤ config.maxMissedPongs) (ho : o.isHandshake = false) {id : UInt64}
    (hpong : o.pong? = some id) (hid : (Keyed.get? id h.outstanding).isSome) (s : Session) :
    Tuned config ⟨s, t.wire, now, t.chart.note config.pongTimeoutMs now (.other o)⟩
      { h with outstanding := Keyed.erase id h.outstanding, missed := 0 } := by
  obtain ⟨p, hfind, hnote⟩ := htuned.note_answers ho config.pongTimeoutMs now hpong hid
  have hmisses : (t.chart.mark (.answered p.number)).misses = 0 := Chart.misses_answered p.number
  rw [hnote]
  refine ⟨?_, hmisses.symm, ?_, ?_⟩
  · change Keyed.erase id h.outstanding = (t.chart.mark (.answered p.number)).pending.map _
    have hordered := ht.sound.pending_ordered.imp fun hpq => hpq.1
    rw [Chart.pending_settled (.inl rfl), htuned.outstanding, Ping.erase_entries hordered hfind]
  · change (t.chart.mark (.answered p.number)).misses < config.maxMissedPongs
    omega
  · change t.wire.pings = (t.chart.mark (.answered p.number)).sent.map _
    rw [Chart.sent_settled (.inl rfl), htuned.wire]

theorem tuned_sent (ht : Attuned config t) (htuned : Tuned config t h) {w : Wire}
    (hw : w.pings = t.wire.pings ++ [t.session.lastPing + 1]) (s : Session) (timeout next : Nat) :
    Tuned config ⟨s, w, now, t.chart.note timeout now .ping⟩
      { h with nextPing := next, outstanding := h.outstanding ++ [(t.session.lastPing + 1, now)] } := by
  have hlast := ht.lastPing_succ
  refine ⟨?_, ?_, ?_, ?_⟩
  · change h.outstanding ++ [(t.session.lastPing + 1, now)] =
      (t.chart.mark (.sent ⟨t.chart.count + 1, now⟩)).pending.map _
    rw [ht.ping_fresh, htuned.outstanding, hlast, List.map_append]
    rfl
  · change h.missed = (t.chart.mark _).misses
    rw [Chart.misses_sent, htuned.missed]
  · change (t.chart.mark _).misses < config.maxMissedPongs
    rw [Chart.misses_sent]
    exact htuned.low
  · change w.pings = (t.chart.mark (.sent ⟨t.chart.count + 1, now⟩)).sent.map _
    rw [hw, htuned.wire, hlast, Chart.sent_mark, List.map_append]
    rfl

theorem tuned_expired (ht : Attuned config t) (htuned : Tuned config t h)
    (hdue : ∃ e ∈ h.outstanding.head?, e.2 + config.pongTimeoutMs ≤ now)
    (hlow : h.missed + 1 < config.maxMissedPongs) (s : Session) :
    Tuned config ⟨s, t.wire, now, t.chart.note config.pongTimeoutMs now .expire⟩
      { h with outstanding := h.outstanding.tail, missed := h.missed + 1 } := by
  obtain ⟨p, rest, hpending, hnote⟩ := htuned.note_expires hdue
  have hmisses : (t.chart.mark (.expired p.number)).misses = h.missed + 1 := by
    rw [Chart.misses_expired, htuned.missed]
  rw [hnote]
  refine ⟨?_, hmisses.symm, ?_, ?_⟩
  · change h.outstanding.tail = (t.chart.mark (.expired p.number)).pending.map _
    have hordered := ht.sound.pending_ordered.imp fun hpq => hpq.1
    rw [hpending] at hordered
    rw [Chart.pending_settled (.inr rfl), htuned.outstanding, hpending,
      Ping.filter_ne_head hordered]
    rfl
  · change (t.chart.mark (.expired p.number)).misses < config.maxMissedPongs
    rw [hmisses]
    exact hlow
  · change t.wire.pings = (t.chart.mark (.expired p.number)).sent.map _
    rw [Chart.sent_settled (.inr rfl), htuned.wire]

theorem tuned_of_stir (ht : Attuned config t) (hmax : 1 ≤ config.maxMissedPongs) {b : Beat}
    {s : Session} {w : Wire} (hstir : Stir b now t.session t.wire s w)
    (hp' : s.phase = .connected h) :
    Tuned config ⟨s, w, now, t.chart.note config.pongTimeoutMs now b⟩ h := by
  cases hstir with
  | away _ hs' => exact absurd hp' (not_connected hs')
  | fails _ _ _ _ _ hf => exact absurd hp' (not_connected hf.2.1)
  | leaves _ _ hs' => exact absurd hp' (not_connected hs')
  | begins sends new next hb _ hp hw hnew =>
    subst hb
    obtain rfl := SessionPhase.connected.inj (hp.symm.trans hp')
    refine ⟨rfl, rfl, hmax, ?_⟩
    change w.pings = []
    rw [hw.pings, hnew, Wire.pings, ht.numbered.current_renew]
    rfl
  | rests h₁ o new hb ho hp hp₁ hpong hw hnew =>
    subst hb
    obtain rfl := SessionPhase.connected.inj (hp₁.symm.trans hp')
    have htuned := ht.tuned h₁ hp
    rw [htuned.note_rests ho config.pongTimeoutMs now hpong]
    refine ⟨htuned.outstanding, htuned.missed, htuned.low, ?_⟩
    change w.pings = _
    rw [hw.pings, hnew, List.append_nil, htuned.wire]
  | answers h₁ o id hb ho hp hpong hid hp₁ hw =>
    subst hb hw
    obtain rfl := SessionPhase.connected.inj (hp₁.symm.trans hp')
    exact ht.tuned_answered (ht.tuned h₁ hp) hmax ho hpong hid s
  | pings h₁ next hb hp hp₁ hw =>
    subst hb
    obtain rfl := SessionPhase.connected.inj (hp₁.symm.trans hp')
    exact ht.tuned_sent (ht.tuned h₁ hp) hw.pings s config.pongTimeoutMs next
  | expires h₁ hb hp hdue hlow hp₁ hw =>
    subst hb hw
    obtain rfl := SessionPhase.connected.inj (hp₁.symm.trans hp')
    rw [ht.config_eq] at hdue hlow
    exact ht.tuned_expired (ht.tuned h₁ hp) hdue hlow s

/-- Every beat keeps the account. -/
theorem beat (ht : Attuned config t) (hmax : 1 ≤ config.maxMissedPongs) (hle : t.clock ≤ now)
    {b : Beat} {random : Float} {s : Session} {w : Wire}
    (hr : Session.beat b now random t.session t.wire = some (s, w)) :
    Attuned config ⟨s, w, now, t.chart.note config.pongTimeoutMs now b⟩ := by
  have htempo := beat_tempo hr
  have hlast : s.lastPing = if b.isPing then t.session.lastPing + 1 else t.session.lastPing :=
    congrArg Prod.snd htempo
  constructor
  · exact (congrArg Prod.fst htempo).trans ht.config_eq
  · change s.lastPing = .ofNat (t.chart.note _ now b).count
    rw [hlast, Chart.note_count]
    split_ifs
    · exact ht.lastPing_succ
    · exact ht.lastPing
  · exact beat_numbered ht.numbered hr
  · exact ht.sound.note hle b
  · intro h hp
    exact ht.tuned_of_stir hmax (beat_stir hr) hp

theorem step (ht : Attuned config t) (hmax : 1 ≤ config.maxMissedPongs) (hle : t.clock ≤ now)
    (b : Beat) (random : Float) : Attuned config (t.step b now random) := by
  unfold Watch.step
  split
  · rename_i s w hr
    rw [ht.config_eq]
    exact ht.beat hmax hle hr
  · exact ⟨ht.config_eq, ht.lastPing, ht.numbered, ht.sound.mono hle, fun h hp =>
      let htuned := ht.tuned h hp
      ⟨htuned.outstanding, htuned.missed, htuned.low, htuned.wire⟩⟩

theorem of_reachable (hmax : 1 ≤ config.maxMissedPongs) (ht : Reachable config t) :
    Attuned config t := by
  induction ht with
  | refl => exact start config
  | tail _ hnext ih =>
    obtain ⟨b, now, random, hle, rfl⟩ := hnext
    exact ih.step hmax hle b random

/-- A connection is given up over its heartbeat just when the last ping allowed has waited in vain. -/
theorem failed_iff_of_stir (ht : Attuned config t) (hmax : 1 ≤ config.maxMissedPongs)
    (hp : t.session.phase = .connected h) {b : Beat} {s : Session} {w : Wire}
    (hstir : Stir b now t.session t.wire s w) :
    HeartbeatFailed t.session s ↔
      (t.chart.note config.pongTimeoutMs now b).misses = config.maxMissedPongs := by
  have htuned := ht.tuned h hp
  have hlow := htuned.low
  by_cases hstays : ∃ h', s.phase = .connected h'
  · -- On a connection that stays the account is kept, and so there are too few misses.
    obtain ⟨h', hp'⟩ := hstays
    have hlow' := (ht.tuned_of_stir hmax hstir hp').low
    exact iff_of_false (fun hf => not_connected hf.2.1 hp') (Nat.ne_of_lt hlow')
  · cases hstir with
    | away hs | begins _ _ _ _ hs => exact absurd hp (not_connected hs)
    | rests h' _ _ _ _ _ hp' => exact absurd ⟨h', hp'⟩ hstays
    | answers _ _ _ _ _ _ _ _ hp' => exact absurd ⟨_, hp'⟩ hstays
    | pings _ _ _ _ hp' => exact absurd ⟨_, hp'⟩ hstays
    | expires _ _ _ _ _ hp' => exact absurd ⟨_, hp'⟩ hstays
    | fails h₁ hb hp₁ hdue hmost hf =>
      subst hb
      obtain rfl := SessionPhase.connected.inj (hp₁.symm.trans hp)
      rw [ht.config_eq] at hdue hmost
      obtain ⟨p, rest, -, hnote⟩ := htuned.note_expires hdue
      have hmissed := htuned.missed
      rw [hnote, Chart.misses_expired]
      exact iff_of_true hf (by omega)
    | leaves hb _ _ hf =>
      have hsame : (t.chart.note config.pongTimeoutMs now b).misses = t.chart.misses := by
        rcases hb with rfl | ⟨o, rfl, ho, hpong⟩
        · exact Chart.misses_sent _
        · rw [htuned.note_rests ho]
          intro id hid
          rw [hpong] at hid
          cases hid
      rw [hsame]
      exact iff_of_false hf (Nat.ne_of_lt hlow)

/-- Numbers that were sent and have not come round again are told apart. -/
theorem number_of_id (ht : Attuned config t) (hcount : t.chart.count < UInt64.size) {p : Ping}
    (hp : p ∈ t.chart.sent) {n : Nat} (hn : n ≤ t.chart.count) (hid : p.id = .ofNat n) :
    p.number = n := by
  have hle := (ht.sound.range p hp).2
  have hword : (UInt64.ofNat n).toNat = n := UInt64.toNat_ofNat_of_lt' (Nat.lt_of_le_of_lt hn hcount)
  rw [← Ping.toNat_id (Nat.lt_of_le_of_lt hle hcount), hid, hword]

theorem ids_increasing (ht : Attuned config t) (hcount : t.chart.count < UInt64.size) :
    (t.chart.pending.map Ping.entry).Pairwise fun e e' => e.1 < e'.1 := by
  rw [List.pairwise_map]
  refine ht.sound.pending_ordered.imp_of_mem ?_
  intro p q hp hq hpq
  have hle := (ht.sound.range q (Chart.mem_pending.mp hq).1).2
  have hlt : p.number < q.number := hpq.1
  change p.id < q.id
  rw [UInt64.lt_iff_toNat_lt, Ping.toNat_id (by omega), Ping.toNat_id (by omega)]
  exact hlt

/-- A ping that was settled, or that an earlier connection sent, is not waited for. -/
theorem get?_of_stale (ht : Attuned config t) (hp : t.session.phase = .connected h)
    (hcount : t.chart.count < UInt64.size) {n : Nat}
    (hn : n ≤ t.chart.first ∨ n ∈ t.chart.answered ++ t.chart.expired) :
    Keyed.get? (.ofNat n) h.outstanding = none := by
  have hbound : n ≤ t.chart.count := by
    rcases hn with hfirst | hsettled
    · exact Nat.le_trans hfirst ht.sound.first_le
    · obtain ⟨p, hmem, rfl⟩ := ht.sound.settled_sent n hsettled
      exact (ht.sound.range p hmem).2
  rw [(ht.tuned h hp).outstanding, Ping.get?_entries, Option.map_eq_none_iff, List.find?_eq_none]
  intro p hmem hid
  obtain ⟨hsent, ha, he⟩ := Chart.mem_pending.mp hmem
  have hnumber := ht.number_of_id hcount hsent hbound (of_decide_eq_true hid)
  rcases hn with hfirst | hsettled
  · have hafter := (ht.sound.range p hsent).1
    omega
  · rw [← hnumber] at hsettled
    rcases List.mem_append.mp hsettled with hanswered | hexpired
    · exact ha hanswered
    · exact he hexpired

theorem earliest (ht : Attuned config t) (hp : t.session.phase = .connected h) {deadline : Nat}
    (hd : t.session.pongDeadline? h = some deadline) :
    ∀ e ∈ h.outstanding, deadline ≤ e.2 + config.pongTimeoutMs := by
  have houtstanding := (ht.tuned h hp).outstanding
  have hordered := ht.sound.pending_ordered
  rw [pongDeadline?, ht.config_eq, houtstanding] at hd
  rw [houtstanding]
  cases hpending : t.chart.pending with
  | nil => simp
  | cons p rest =>
    rw [hpending] at hd hordered
    obtain rfl := Option.some.inj hd
    intro e he
    obtain ⟨q, hq, rfl⟩ := List.mem_map.mp he
    rcases List.mem_cons.mp hq with rfl | hlater
    · exact Nat.le_refl _
    · exact Nat.add_le_add_right ((List.pairwise_cons.mp hordered).1 q hlater).2 _

end Attuned

theorem receive_of_get?_none {s : Session} {text : String} {id : UInt64}
    (hpong : (Occasion.arrived text).pong? = some id) (hnone : Keyed.get? id h.outstanding = none)
    (now : Nat) : s.receive h now text = s := by
  have hparse : ServerFrame.parse text = .ok (.pong id) := by
    unfold Occasion.pong? at hpong
    dsimp only at hpong
    split at hpong
    · rename_i hf
      rw [hf, Option.some.inj hpong]
    · cases hpong
  simp only [receive, hparse, receiveFrame, answerPing, hnone]

/-- How the pings of a connection and what the session keeps of them go together. Pings are told apart
by their numbers, which come round again after 64 bits. -/
structure Accounted (config : SessionConfig) (t : Watch) (h : Heartbeat) : Prop where
  outstanding : h.outstanding = t.chart.pending.map Ping.entry
  sent : t.wire.pings = t.chart.sent.map Ping.id
  numbers : t.chart.pending.Pairwise fun p q => p.number < q.number
  ids : t.chart.count < UInt64.size → h.outstanding.Pairwise fun e e' => e.1 < e'.1
  times : h.outstanding.Pairwise fun e e' => e.2 ≤ e'.2
  earliest : ∀ deadline, t.session.pongDeadline? h = some deadline →
    ∀ e ∈ h.outstanding, deadline ≤ e.2 + config.pongTimeoutMs
  missed : h.missed = t.chart.misses
  low : h.missed < config.maxMissedPongs
  /-- A ping has one answer at most, and none after it waited too long. -/
  once : (t.chart.answered ++ t.chart.expired).Nodup
  /-- A pong that no ping waits for changes nothing. -/
  unknown : ∀ text id now, (Occasion.arrived text).pong? = some id →
    id ∉ Keyed.keys h.outstanding → t.session.receive h now text = t.session
  stale : t.chart.count < UInt64.size → ∀ n,
    n ≤ t.chart.first ∨ n ∈ t.chart.answered ++ t.chart.expired →
    ∀ text now, (Occasion.arrived text).pong? = some (.ofNat n) →
      t.session.receive h now text = t.session
  fails : ∀ b now random s w, beat b now random t.session t.wire = some (s, w) →
    (HeartbeatFailed t.session s ↔
      (t.chart.note config.pongTimeoutMs now b).misses = config.maxMissedPongs)

/-- In every run of a session, with pings, pongs and deadlines in any order while the clock does not go
back, the pings of the connection are accounted for. -/
theorem accounted_of_reachable (hmax : 1 ≤ config.maxMissedPongs) (ht : Reachable config t)
    (hp : t.session.phase = .connected h) : Accounted config t h := by
  have hattuned := Attuned.of_reachable hmax ht
  have htuned := hattuned.tuned h hp
  have hordered := hattuned.sound.pending_ordered
  constructor
  · exact htuned.outstanding
  · exact htuned.wire
  · exact hordered.imp fun hpq => hpq.1
  · intro hcount
    rw [htuned.outstanding]
    exact hattuned.ids_increasing hcount
  · rw [htuned.outstanding, List.pairwise_map]
    exact hordered.imp fun hpq => hpq.2
  · exact fun deadline hd => hattuned.earliest hp hd
  · exact htuned.missed
  · rw [htuned.missed]
    exact htuned.low
  · exact hattuned.sound.settled_once
  · intro text id now hpong hid
    exact receive_of_get?_none hpong (Keyed.get?_eq_none_iff.mpr hid) now
  · intro hcount n hn text now hpong
    exact receive_of_get?_none hpong (hattuned.get?_of_stale hp hcount hn) now
  · intro b now random s w hr
    exact hattuned.failed_iff_of_stir hmax hp (beat_stir hr)

/-- The second ping has its answer before the first, which then waits too long. -/
def crossed (config : SessionConfig) : Watch :=
  (start config).follow 0
    [(.other (.request .connect), 0), (.other (.accepted none), 1), (.ping, 11), (.ping, 21),
      (.other (.arrived "\x7b\"type\":\"pong\",\"id\":2\x7d"), 22), (.ping, 31), (.expire, 36)]

theorem accounted_crossed :
    let config : SessionConfig :=
      { url := "ws://localhost", sessionId := "s", heartbeatMs := 10, pongTimeoutMs := 25,
        maxMissedPongs := 2 }
    let h : Heartbeat := { nextPing := 41, outstanding := [(3, 31)], missed := 1 }
    1 ≤ config.maxMissedPongs ∧ Reachable config (crossed config) ∧
      (crossed config).session.phase = .connected h ∧ (crossed config).chart.answered = [2] ∧
      (crossed config).chart.expired = [1] ∧ Accounted config (crossed config) h := by
  intro config h
  have hmax : 1 ≤ config.maxMissedPongs := by decide
  have hreach : Reachable config (crossed config) :=
    reachable_follow 0 .refl (by simp [start])
  have hp : (crossed config).session.phase = .connected h := by decide +kernel
  have ha : (crossed config).chart.answered = [2] := by decide +kernel
  have he : (crossed config).chart.expired = [1] := by decide +kernel
  exact ⟨hmax, hreach, hp, ha, he, accounted_of_reachable hmax hreach hp⟩

end Watch

end Fanout.Session
