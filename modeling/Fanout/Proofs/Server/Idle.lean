import Fanout.Server.Watchdog
import Mathlib.Tactic.ByContra

/-!
A watchdog on an exact clock. Main statement: it reports a client as idle at the first look that finds
the client silent for long enough, so it is never early and at most one interval late.
-/
namespace Fanout

/-- What a watch is about: when the connection was made, when the watch begins, how often it looks, how
long a client may be silent, and at which times something comes from the client. So many units of the
clock make a `millisecond`. -/
structure Terms where
  opened : Nat
  start : Nat
  opened_le : opened ≤ start
  interval : Nat
  idleAfter : Nat
  millisecond : Nat
  millisecond_pos : 0 < millisecond
  isActive : Nat → Bool

namespace Terms

variable {m : Terms} {now a b : Nat}

def period (m : Terms) : Nat := max m.interval m.millisecond

/-- The time of the look with number `k`, from one on. -/
def look (m : Terms) (k : Nat) : Nat := m.start + k * m.period

/-- Something last came at `a` when the clock shows `now`. The beginning of the connection counts. -/
structure IsLast (m : Terms) (now a : Nat) : Prop where
  opened_le : m.opened ≤ a
  le_now : a ≤ now
  active : a = m.opened ∨ m.isActive a = true
  quiet : ∀ s, a < s → s ≤ now → m.isActive s = false

/-- Nothing has come for as long as a client may be silent. -/
def Silent (m : Terms) (now : Nat) : Prop := ∃ a, m.IsLast now a ∧ m.idleAfter ≤ now - a

theorem period_pos (m : Terms) : 0 < m.period :=
  Nat.lt_of_lt_of_le m.millisecond_pos (Nat.le_max_right _ _)

theorem look_zero (m : Terms) : m.look 0 = m.start := by rw [look, Nat.zero_mul, Nat.add_zero]

theorem look_succ (m : Terms) (k : Nat) : m.look (k + 1) = m.look k + m.period := by
  rw [look, look, Nat.succ_mul, Nat.add_assoc]

theorem look_lt_iff (m : Terms) {j k : Nat} : m.look j < m.look k ↔ j < k := by
  have hmul : j * m.period < k * m.period ↔ j < k := Nat.mul_lt_mul_right m.period_pos
  rw [look, look]
  omega

theorem IsLast.unique (ha : m.IsLast now a) (hb : m.IsLast now b) : a = b := by
  have hle : ∀ {x y}, m.IsLast now x → m.IsLast now y → ¬ x < y := by
    intro x y hx hy hlt
    have hquiet := hx.quiet y hlt hy.le_now
    have hfrom := hx.opened_le
    rcases hy.active with rfl | hactive
    · omega
    · rw [hquiet] at hactive
      cases hactive
  have h₁ := hle ha hb
  have h₂ := hle hb ha
  omega

/-- What came last is what came last at any time between. -/
theorem IsLast.earlier (h : m.IsLast now a) {s : Nat} (ha : a ≤ s) (hs : s ≤ now) :
    m.IsLast s a :=
  ⟨h.opened_le, ha, h.active, fun x hx hxs => h.quiet x hx (Nat.le_trans hxs hs)⟩

theorem isLast_opened (m : Terms) : m.IsLast m.opened m.opened :=
  ⟨Nat.le_refl _, Nat.le_refl _, .inl rfl, fun s hs hs' => absurd hs (by omega)⟩

theorem IsLast.next (h : m.IsLast now a) :
    m.IsLast (now + 1) (if m.isActive (now + 1) then now + 1 else a) := by
  have hopened := h.opened_le
  have hnow := h.le_now
  split
  · rename_i hactive
    exact ⟨by omega, Nat.le_refl _, .inr hactive, fun s hs hs' => absurd hs (by omega)⟩
  · rename_i hactive
    refine ⟨hopened, by omega, h.active, fun s hs hs' => ?_⟩
    by_cases hlast : s = now + 1
    · subst hlast
      simpa using hactive
    · exact h.quiet s hs (by omega)

/-- At a time that is known to be the last, silence is a matter of the clock. -/
theorem IsLast.silent_iff (h : m.IsLast now a) : m.Silent now ↔ m.idleAfter ≤ now - a := by
  constructor
  · rintro ⟨b, hb, hidle⟩
    rwa [h.unique hb]
  · exact fun hidle => ⟨a, h, hidle⟩

end Terms

structure Vigil where
  connection : Connection
  watchdog : Watchdog

namespace Vigil

/-- One unit of time. What comes at an instant is noted before the watchdog looks. -/
def pass (v : Vigil) (isActive : Bool) (now : Nat) : Vigil :=
  let c := if isActive then v.connection.markAlive now else v.connection
  ⟨c, (v.watchdog.step c now).getD v.watchdog⟩

def after (m : Terms) (c : Connection) : Nat → Vigil
  | 0 => ⟨c, .start m.interval m.idleAfter m.start m.millisecond⟩
  | n + 1 => (after m c n).pass (m.isActive (m.start + n + 1)) (m.start + n + 1)

/-- The watch ends at `t`, with the client found idle. -/
def ReportsIdle (m : Terms) (c : Connection) (t : Nat) : Prop :=
  ∃ n, t = m.start + n ∧ (after m c n).watchdog.outcome = some .idle ∧
    ∀ i < n, (after m c i).watchdog.outcome = none

/-- What a watch is like after `n` units of time. Until it ends no look has found the client silent,
and it ends only after a look that has. -/
structure Kept (m : Terms) (n : Nat) (v : Vigil) : Prop where
  unclosed : v.connection.isClosed = false
  last : m.IsLast (m.start + n) v.connection.lastActivity
  period_eq : v.watchdog.period = m.period
  idleAfter_eq : v.watchdog.idleAfter = m.idleAfter
  waiting : v.watchdog.outcome = none → ∃ k, v.watchdog.nextTick = m.look (k + 1) ∧
    m.look k ≤ m.start + n ∧ m.start + n < m.look (k + 1) ∧
    ∀ j, 1 ≤ j → j ≤ k → ¬ m.Silent (m.look j)
  ended : v.watchdog.outcome ≠ none → v.watchdog.outcome = some .idle ∧
    ∃ k, 1 ≤ k ∧ m.look k ≤ m.start + n ∧ m.Silent (m.look k)

/-- An open connection is looked at when it is time. -/
theorem step_of_unclosed {w : Watchdog} {c : Connection} (hw : w.outcome = none)
    (hc : c.isClosed = false) (now : Nat) :
    w.step c now = if w.nextTick ≤ now then some (w.tick c now) else none := by
  simp [Watchdog.step, hw, hc]

theorem step_of_ended {w : Watchdog} (hw : w.outcome ≠ none) (c : Connection) (now : Nat) :
    w.step c now = none := by
  simp [Watchdog.step, Option.isSome_iff_ne_none.mpr hw]

namespace Kept

variable {m : Terms} {n : Nat} {v : Vigil} {c : Connection}

theorem start (hopen : c.isClosed = false) (hlast : m.IsLast m.start c.lastActivity) :
    Kept m 0 (after m c 0) where
  unclosed := hopen
  last := hlast
  period_eq := rfl
  idleAfter_eq := rfl
  waiting := fun _ => by
    have hpos := m.period_pos
    refine ⟨0, ?_, ?_, ?_, fun j hj hj' => absurd hj (by omega)⟩
    · rw [Terms.look_succ, Terms.look_zero]
      rfl
    · exact Nat.le_of_eq m.look_zero
    · rw [Terms.look_succ, Terms.look_zero]
      omega
  ended := fun h => absurd rfl h

/-- The connection after one more unit of time. -/
theorem connection_pass (h : Kept m n v) :
    let c := (v.pass (m.isActive (m.start + n + 1)) (m.start + n + 1)).connection
    c.isClosed = false ∧ m.IsLast (m.start + n + 1) c.lastActivity := by
  have hlast := h.last.next
  have hopen := h.unclosed
  dsimp only [pass]
  split
  · rename_i hactive
    rw [if_pos hactive] at hlast
    exact ⟨hopen, hlast⟩
  · rename_i hactive
    rw [if_neg hactive] at hlast
    exact ⟨hopen, hlast⟩

/-- What the watchdog makes of one more unit of time. -/
theorem watchdog_pass (v : Vigil) (isActive : Bool) (now : Nat) :
    (v.pass isActive now).watchdog =
      (v.watchdog.step (v.pass isActive now).connection now).getD v.watchdog := rfl

/-- A watch that has ended stays as it is. -/
theorem pass_ended (h : Kept m n v) (hend : v.watchdog.outcome ≠ none) :
    Kept m (n + 1) (v.pass (m.isActive (m.start + n + 1)) (m.start + n + 1)) := by
  obtain ⟨hopen, hlast⟩ := h.connection_pass
  have hsame := watchdog_pass v (m.isActive (m.start + n + 1)) (m.start + n + 1)
  rw [step_of_ended hend, Option.getD_none] at hsame
  refine ⟨hopen, hlast, hsame ▸ h.period_eq, hsame ▸ h.idleAfter_eq, ?_, ?_⟩
  · rw [hsame]
    exact fun hnone => absurd hnone hend
  · rw [hsame]
    intro _
    obtain ⟨hidle, k, hk, hle, hsilent⟩ := h.ended hend
    exact ⟨hidle, k, hk, by omega, hsilent⟩

/-- Between two looks nothing changes but the connection. -/
theorem pass_between (h : Kept m n v) (hnone : v.watchdog.outcome = none)
    (hearly : m.start + n + 1 < v.watchdog.nextTick) :
    Kept m (n + 1) (v.pass (m.isActive (m.start + n + 1)) (m.start + n + 1)) := by
  obtain ⟨hopen, hlast⟩ := h.connection_pass
  have hsame := watchdog_pass v (m.isActive (m.start + n + 1)) (m.start + n + 1)
  rw [step_of_unclosed hnone hopen, if_neg (by omega), Option.getD_none] at hsame
  refine ⟨hopen, hlast, hsame ▸ h.period_eq, hsame ▸ h.idleAfter_eq, ?_, ?_⟩
  · rw [hsame]
    intro _
    obtain ⟨k, htick, hle, -, hloud⟩ := h.waiting hnone
    exact ⟨k, htick, by omega, by omega, hloud⟩
  · rw [hsame]
    exact fun hend => absurd hnone hend

/-- The look with number `k + 1` ends the watch of a silent client and goes on watching another. -/
theorem pass_look (h : Kept m n v) (hnone : v.watchdog.outcome = none)
    (hdue : v.watchdog.nextTick = m.start + n + 1) :
    Kept m (n + 1) (v.pass (m.isActive (m.start + n + 1)) (m.start + n + 1)) := by
  obtain ⟨hopen, hlast⟩ := h.connection_pass
  obtain ⟨k, htick, -, -, hloud⟩ := h.waiting hnone
  have hlook : m.look (k + 1) = m.start + n + 1 := htick.symm.trans hdue
  have hdog := watchdog_pass v (m.isActive (m.start + n + 1)) (m.start + n + 1)
  generalize v.pass (m.isActive (m.start + n + 1)) (m.start + n + 1) = v' at *
  rw [step_of_unclosed hnone hopen, if_pos (Nat.le_of_eq hdue), Option.getD_some,
    Watchdog.tick, Connection.idleFor] at hdog
  have hidleAfter := h.idleAfter_eq
  by_cases hidle : v.watchdog.idleAfter ≤ m.start + n + 1 - v'.connection.lastActivity
  · rw [if_pos hidle] at hdog
    have hsilent : m.Silent (m.look (k + 1)) :=
      hlook ▸ hlast.silent_iff.mpr (hidleAfter ▸ hidle)
    refine ⟨hopen, hlast, hdog ▸ h.period_eq, hdog ▸ h.idleAfter_eq, ?_, ?_⟩
    · rw [hdog]
      exact fun hnone' => nomatch hnone'
    · rw [hdog]
      exact fun _ => ⟨rfl, k + 1, by omega, by omega, hsilent⟩
  · rw [if_neg hidle] at hdog
    have hheard : ¬ m.Silent (m.look (k + 1)) :=
      hlook ▸ fun hs => hidle (hidleAfter ▸ hlast.silent_iff.mp hs)
    have hpos := m.period_pos
    have hnext := m.look_succ (k + 1)
    refine ⟨hopen, hlast, hdog ▸ h.period_eq, hdog ▸ h.idleAfter_eq, ?_, ?_⟩
    · rw [hdog]
      refine fun _ => ⟨k + 1, ?_, by omega, by omega, fun j hj hj' => ?_⟩
      · rw [hnext, ← htick, ← h.period_eq]
      · by_cases hjk : j = k + 1
        · exact hjk ▸ hheard
        · exact hloud j hj (by omega)
    · rw [hdog]
      exact fun hend => absurd hnone hend

theorem pass (h : Kept m n v) :
    Kept m (n + 1) (v.pass (m.isActive (m.start + n + 1)) (m.start + n + 1)) := by
  by_cases hnone : v.watchdog.outcome = none
  · obtain ⟨k, htick, -, hlt, -⟩ := h.waiting hnone
    by_cases hdue : v.watchdog.nextTick = m.start + n + 1
    · exact h.pass_look hnone hdue
    · exact h.pass_between hnone (by omega)
  · exact h.pass_ended hnone

theorem after (hopen : c.isClosed = false) (hlast : m.IsLast m.start c.lastActivity) (n : Nat) :
    Kept m n (Vigil.after m c n) := by
  induction n with
  | zero => exact start hopen hlast
  | succ n ih => exact ih.pass

/-- By any time the watch has ended exactly if a look up to then has found the client silent. -/
theorem outcome_iff (h : Kept m n v) :
    v.watchdog.outcome = some .idle ↔
      ∃ k, 1 ≤ k ∧ m.look k ≤ m.start + n ∧ m.Silent (m.look k) := by
  constructor
  · exact fun hidle => (h.ended (by simp [hidle])).2
  · rintro ⟨k, hk, hle, hsilent⟩
    by_contra hne
    have hnone : v.watchdog.outcome = none := by
      by_contra hend
      exact hne (h.ended hend).1
    obtain ⟨k', -, -, hlt, hloud⟩ := h.waiting hnone
    have hkk : k < k' + 1 := m.look_lt_iff.mp (Nat.lt_of_le_of_lt hle hlt)
    exact hloud k hk (by omega) hsilent

end Kept

variable {m : Terms} {c : Connection} {t : Nat}

/-- The watch ends at the first look that finds the client silent. -/
theorem reportsIdle_iff (hopen : c.isClosed = false) (hlast : m.IsLast m.start c.lastActivity) :
    ReportsIdle m c t ↔ ∃ k, 1 ≤ k ∧ t = m.look k ∧ m.Silent t ∧
      ∀ j, 1 ≤ j → j < k → ¬ m.Silent (m.look j) := by
  have hkept := Kept.after (c := c) hopen hlast
  constructor
  · rintro ⟨n, rfl, hidle, hbefore⟩
    obtain ⟨k, hk, hle, hsilent⟩ := (hkept n).outcome_iff.mp hidle
    have hnever : ∀ j, 1 ≤ j → m.look j < m.start + n → ¬ m.Silent (m.look j) := by
      intro j hj hlt hs
      have hat : m.look j = m.start + j * m.period := rfl
      have hended := (hkept (j * m.period)).outcome_iff.mpr ⟨j, hj, Nat.le_of_eq hat, hs⟩
      rw [hbefore _ (by omega)] at hended
      cases hended
    have hlook : m.look k = m.start + n := by
      by_contra hne
      exact hnever k hk (by omega) hsilent
    refine ⟨k, hk, hlook.symm, hlook ▸ hsilent, fun j hj hjk => hnever j hj ?_⟩
    rw [← hlook]
    exact m.look_lt_iff.mpr hjk
  · rintro ⟨k, hk, rfl, hsilent, hloud⟩
    have hat : m.look k = m.start + k * m.period := rfl
    refine ⟨k * m.period, hat, (hkept _).outcome_iff.mpr ⟨k, hk, Nat.le_of_eq hat, hsilent⟩, ?_⟩
    intro i hi
    by_contra hend
    obtain ⟨-, j, hj, hle, hs⟩ := (hkept i).ended hend
    have hlt : m.look j < m.look k := by omega
    exact hloud j hj (m.look_lt_iff.mp hlt) hs

/-- A look that finds the client silent for the first time is late by one period at most, or it is the
first look of all. -/
theorem look_le {k a : Nat} (hk : 1 ≤ k) (ha : m.IsLast (m.look k) a)
    (hloud : ∀ j, 1 ≤ j → j < k → ¬ m.Silent (m.look j)) :
    m.look k ≤ a + m.idleAfter + m.period ∨ k = 1 := by
  by_cases hfirst : k = 1
  · exact .inr hfirst
  · obtain ⟨k, rfl⟩ := Nat.exists_eq_add_of_le' hk
    have hnext := m.look_succ k
    by_cases hbefore : a ≤ m.look k
    · -- Nothing has come since the look before, which was too early.
      have hlast := ha.earlier hbefore (by omega)
      have hnot := mt hlast.silent_iff.mpr (hloud k (by omega) (by omega))
      omega
    · omega

/-- A client that was silent for long enough when the watch began is reported by the first look. -/
theorem eq_one_of_overdue {k a : Nat} (hk : 1 ≤ k) (ha : m.IsLast (m.look k) a)
    (hover : a + m.idleAfter < m.start)
    (hloud : ∀ j, 1 ≤ j → j < k → ¬ m.Silent (m.look j)) : k = 1 := by
  by_contra hne
  have hlook : m.look 1 < m.look k := m.look_lt_iff.mpr (by omega)
  have hstart : m.look 1 = m.start + 1 * m.period := rfl
  have hlast := ha.earlier (by omega) (Nat.le_of_lt hlook)
  exact hloud 1 (Nat.le_refl 1) (by omega) (hlast.silent_iff.mpr (by omega))

/-- The watchdog of a client that was last heard from before the watch or when it began. It reports the
client as idle only if the client has been silent for long enough, and at the first look for which this
is so; that it does report then. The look comes not later than one period after the client has been
silent for that long, unless this was so when the watch began, and then it is the first look. A client
heard from in every stretch of that length is never reported. -/
theorem reportsIdle_exact (m : Terms) {c : Connection} (hopen : c.isClosed = false)
    (hlast : m.IsLast m.start c.lastActivity) :
    (∀ t a, ReportsIdle m c t → m.IsLast t a →
      m.idleAfter ≤ t - a ∧ (m.start ≤ a + m.idleAfter → t ≤ a + m.idleAfter + m.period) ∧
      (a + m.idleAfter < m.start → t = m.start + m.period) ∧
      ∃ k, 1 ≤ k ∧ t = m.look k ∧ ∀ j, 1 ≤ j → j < k → ¬ m.Silent (m.look j)) ∧
    (∀ k, 1 ≤ k → m.Silent (m.look k) → ∃ t ≤ m.look k, ReportsIdle m c t) ∧
    (0 < m.idleAfter →
      (∀ x, m.opened ≤ x → ∃ s, x < s ∧ s ≤ x + m.idleAfter ∧ m.isActive s = true) →
      ∀ t, ¬ ReportsIdle m c t) := by
  refine ⟨fun t a ht ha => ?_, fun k hk hsilent => ?_, fun hpos hoften t ht => ?_⟩
  · obtain ⟨k, hk, rfl, hsilent, hloud⟩ := (reportsIdle_iff hopen hlast).mp ht
    have hone : m.look 1 = m.start + m.period := by rw [Terms.look_succ, Terms.look_zero]
    refine ⟨ha.silent_iff.mp hsilent, fun hdue => ?_, fun hover => ?_, k, hk, rfl, hloud⟩
    · rcases look_le hk ha hloud with hle | rfl
      · exact hle
      · omega
    · rw [eq_one_of_overdue hk ha hover hloud]
      exact hone
  · -- The first look of this kind ends the watch.
    induction k using Nat.strongRecOn with
    | ind k ih =>
      by_cases hbefore : ∃ j, 1 ≤ j ∧ j < k ∧ m.Silent (m.look j)
      · obtain ⟨j, hj, hjk, hs⟩ := hbefore
        obtain ⟨t, hle, ht⟩ := ih j hjk hj hs
        have hlt := m.look_lt_iff.mpr hjk
        exact ⟨t, by omega, ht⟩
      · exact ⟨m.look k, Nat.le_refl _, (reportsIdle_iff hopen hlast).mpr
          ⟨k, hk, rfl, hsilent, fun j hj hjk hs => hbefore ⟨j, hj, hjk, hs⟩⟩⟩
  · obtain ⟨k, -, -, ⟨a, ha, hidle⟩, -⟩ := (reportsIdle_iff hopen hlast).mp ht
    obtain ⟨s, hs, hs', hactive⟩ := hoften a ha.opened_le
    have hquiet := ha.quiet s hs (by omega)
    rw [hquiet] at hactive
    cases hactive

/-- An interval below a millisecond of three units, and a client that is heard from once, between two
looks; one that is heard from just often enough; and one that was silent for too long when the watch
began. -/
theorem reportsIdle_exact_floor :
    let m : Terms := ⟨5, 5, by decide, 0, 7, 3, by decide, fun s => s == 9⟩
    let often : Terms := { m with isActive := fun s => s % 7 == 0 }
    let late : Terms := { m with start := 20, opened_le := by decide }
    let c := Connection.new ⟨"a"⟩ none 4 .dropOldest 5
    let d := c.markAlive 9
    ReportsIdle m c 17 ∧ m.IsLast 17 9 ∧ 7 ≤ 17 - 9 ∧ 17 ≤ 9 + 7 + m.period ∧
      (∃ k, 1 ≤ k ∧ 17 = m.look k ∧ ∀ j, 1 ≤ j → j < k → ¬ m.Silent (m.look j)) ∧
      (∀ t, ¬ ReportsIdle often c t) ∧
      late.IsLast late.start d.lastActivity ∧ ReportsIdle late d 23 ∧ late.IsLast 23 9 ∧
      7 ≤ 23 - 9 ∧ 23 = late.start + late.period := by
  intro m often late c d
  have hreport : ReportsIdle m c 17 := ⟨12, rfl, by decide +kernel, by decide +kernel⟩
  have hreport' : ReportsIdle late d 23 := ⟨3, rfl, by decide +kernel, by decide +kernel⟩
  have honce : ∀ s, 9 < s → (s == 9) = false := by
    intro s hs
    simpa using Nat.ne_of_gt hs
  have hlast : m.IsLast 17 9 := ⟨by decide, by decide, .inr rfl, fun s hs _ => honce s hs⟩
  have hlast' : ∀ now, 9 ≤ now → late.IsLast now 9 :=
    fun now hnow => ⟨by decide, hnow, .inr rfl, fun s hs _ => honce s hs⟩
  have hoften : ∀ x, often.opened ≤ x →
      ∃ s, x < s ∧ s ≤ x + often.idleAfter ∧ often.isActive s = true := by
    intro x _
    refine ⟨(x / 7 + 1) * 7, by omega, ?_, by simp [often]⟩
    change (x / 7 + 1) * 7 ≤ x + 7
    omega
  obtain ⟨hsilent, hdue, -, hfirst⟩ :=
    (reportsIdle_exact m (c := c) rfl m.isLast_opened).1 17 9 hreport hlast
  obtain ⟨hsilent', -, hover, -⟩ := (reportsIdle_exact late (c := d) rfl
    (hlast' 20 (by decide))).1 23 9 hreport' (hlast' 23 (by decide))
  exact ⟨hreport, hlast, hsilent, hdue (by decide), hfirst,
    (reportsIdle_exact often (c := c) rfl often.isLast_opened).2.2 (by decide) hoften,
    hlast' 20 (by decide), hreport', hlast' 23 (by decide), hsilent', hover (by decide)⟩

end Vigil

end Fanout
