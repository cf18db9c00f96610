import Fanout.Backoff
import Mathlib.Algebra.Group.Nat.Defs
import Mathlib.Data.List.Basic
import Mathlib.Order.Bounds.Basic
import Mathlib.Order.MinMax

/-!
The delays of a run of attempts. Main statement: a delay without jitter is the capped power of two in
exact arithmetic; between resets each delay is the longest of the jittered ones so far, so they grow,
and none is longer than it would be without jitter.
-/
namespace Fanout

theorem backoffDelay_eq (a b : Nat) {m : Nat} (hm : m ≤ Json.maxUnsigned) :
    backoffDelay a b m = min m (b * 2 ^ min a 31) := by
  change min (min (b * 2 ^ min a 31) Json.maxUnsigned) m = min m (b * 2 ^ min a 31)
  rw [Nat.min_assoc, Nat.min_eq_right hm, Nat.min_comm]

theorem backoffDelay_le (a b m : Nat) : backoffDelay a b m ≤ m := Nat.min_le_right _ _

theorem backoffDelay_mono {a a' b b' m m' : Nat} (ha : a ≤ a') (hb : b ≤ b') (hm : m ≤ m') :
    backoffDelay a b m ≤ backoffDelay a' b' m' := by
  have hexponent : min a maxDoublings ≤ min a' maxDoublings := min_le_min_right _ ha
  have hpower : Nat.pow 2 (min a maxDoublings) ≤ Nat.pow 2 (min a' maxDoublings) :=
    Nat.pow_le_pow_right (by decide) hexponent
  have hproduct : b * Nat.pow 2 (min a maxDoublings) ≤ b' * Nat.pow 2 (min a' maxDoublings) :=
    Nat.mul_le_mul hb hpower
  exact min_le_min (min_le_min_right _ hproduct) hm

theorem jitteredDelay_le (attempt base max : Nat) (jitter random : Float) :
    jitteredDelay attempt base max jitter random ≤ backoffDelay attempt base max :=
  Nat.min_le_right _ _

namespace BackoffConfig

variable (c : BackoffConfig) (n : Nat)

/-- The delay before attempt `n` without jitter. -/
def full : Nat := backoffDelay n c.baseDelayMs c.maxDelayMs

/-- The delay before attempt `n` that a random number asks for. -/
def asked (random : Float) : Nat :=
  jitteredDelay n c.baseDelayMs c.maxDelayMs c.jitterFactor random

theorem asked_le (random : Float) : c.asked n random ≤ c.full n := jitteredDelay_le _ _ _ _ _

theorem full_le : c.full n ≤ c.maxDelayMs := backoffDelay_le _ _ _

theorem full_le_succ : c.full n ≤ c.full (n + 1) :=
  backoffDelay_mono (Nat.le_succ n) le_rfl le_rfl

end BackoffConfig

namespace Backoff

inductive Turn where
  | next (random : Float)
  | reset

/-- A random number and the delay that came of it. -/
structure Draw where
  random : Float
  delay : Nat

structure Course where
  backoff : Backoff
  /-- The stretches that ended with a reset, the oldest first. -/
  past : List (List Draw) := []
  current : List Draw := []

namespace Course

def start (config : BackoffConfig) : Course := { backoff := { config } }

def take (c : Course) : Turn → Course
  | .next random =>
    let (delay, backoff) := c.backoff.next random
    { c with backoff, current := c.current ++ [⟨random, delay⟩] }
  | .reset => ⟨c.backoff.reset, c.past ++ [c.current], []⟩

def run (config : BackoffConfig) (turns : List Turn) : Course := turns.foldl take (start config)

def stretches (c : Course) : List (List Draw) := c.past ++ [c.current]

end Course

def askedUpTo (config : BackoffConfig) (draws : List Draw) (n : Nat) : Set Nat :=
  {asked | ∃ i ≤ n, ∃ d, draws[i]? = some d ∧ config.asked i d.random = asked}

/-- The delays of a stretch grow within their bounds, each the longest asked for so far. -/
structure Grows (config : BackoffConfig) (draws : List Draw) : Prop where
  sorted : draws.Pairwise fun d d' => d.delay ≤ d'.delay
  bounded : ∀ n d, draws[n]? = some d → d.delay ≤ config.full n
  longest : ∀ n d, draws[n]? = some d → IsGreatest (askedUpTo config draws n) d.delay

variable {config : BackoffConfig} {b : Backoff} {draws : List Draw}

theorem askedUpTo_append {n : Nat} (hn : n < draws.length) (d : Draw) :
    askedUpTo config (draws ++ [d]) n = askedUpTo config draws n := by
  have hsame : ∀ i ≤ n, (draws ++ [d])[i]? = draws[i]? := fun i hi =>
    List.getElem?_append_left (by omega)
  ext x
  constructor
  · rintro ⟨i, hi, d', hd', hx⟩
    rw [hsame i hi] at hd'
    exact ⟨i, hi, d', hd', hx⟩
  · rintro ⟨i, hi, d', hd', hx⟩
    rw [← hsame i hi] at hd'
    exact ⟨i, hi, d', hd', hx⟩

theorem getElem?_concat_cases {n : Nat} {d d' : Draw} (h : (draws ++ [d])[n]? = some d') :
    (n < draws.length ∧ draws[n]? = some d') ∨ (n = draws.length ∧ d' = d) := by
  rcases Nat.lt_or_ge n draws.length with hlt | hge
  · rw [List.getElem?_append_left hlt] at h
    exact .inl ⟨hlt, h⟩
  · obtain ⟨hbound, hget⟩ := List.getElem?_eq_some_iff.mp h
    rw [List.length_append, List.length_singleton] at hbound
    have hn : n = draws.length := by omega
    subst hn
    simp at hget
    exact .inr ⟨rfl, hget.symm⟩

/-- What a run of attempts has kept of the stretch that it is in. -/
structure Tracks (b : Backoff) (draws : List Draw) : Prop where
  attempt : b.attempt = draws.length
  /-- The last delay is the longest, and nothing when there is none. -/
  covers : ∀ d ∈ draws, d.delay ≤ b.lastDelayMs
  lasts : b.lastDelayMs = 0 ∨ ∃ (n : Nat) (d : Draw), draws[n]? = some d ∧ d.delay = b.lastDelayMs
  bounded : b.lastDelayMs ≤ b.config.full b.attempt
  grows : Grows b.config draws

theorem settle_eq {jittered : Nat} (hj : jittered ≤ b.config.maxDelayMs)
    (hl : b.lastDelayMs ≤ b.config.maxDelayMs) : b.settle jittered = max jittered b.lastDelayMs := by
  unfold settle
  exact Nat.min_eq_left (Nat.max_le.mpr ⟨hj, hl⟩)

theorem next_eq (random : Float) : b.next random =
    (b.settle (b.config.asked b.attempt random),
      { b with
        attempt := b.attempt + 1
        lastDelayMs := b.settle (b.config.asked b.attempt random) }) := rfl

namespace Tracks

theorem fresh (ha : b.attempt = 0) (hl : b.lastDelayMs = 0) : Tracks b [] where
  attempt := ha
  covers := by simp
  lasts := .inl hl
  bounded := by
    rw [hl]
    exact Nat.zero_le _
  grows := ⟨.nil, by simp, by simp⟩

theorem delay_eq (h : Tracks b draws) (random : Float) :
    (b.next random).1 = max (b.config.asked draws.length random) b.lastDelayMs := by
  have hasked := (b.config.asked_le b.attempt random).trans (b.config.full_le b.attempt)
  have hlast := h.bounded.trans (b.config.full_le b.attempt)
  rw [next_eq, settle_eq hasked hlast, h.attempt]

/-- The new delay is the longest of those asked for. -/
theorem longest_next (h : Tracks b draws) (random : Float) :
    IsGreatest (askedUpTo b.config (draws ++ [⟨random, (b.next random).1⟩]) draws.length)
      (b.next random).1 := by
  set new : Draw := ⟨random, (b.next random).1⟩
  have hdelay := h.delay_eq random
  have hself : (draws ++ [new])[draws.length]? = some new := by simp
  have hkept : ∀ {n d}, draws[n]? = some d → n < draws.length := fun hd =>
    (List.getElem?_eq_some_iff.mp hd).1
  constructor
  · rcases le_total b.lastDelayMs (b.config.asked draws.length random) with hle | hle
    · rw [max_eq_left hle] at hdelay
      exact ⟨draws.length, le_rfl, new, hself, hdelay.symm⟩
    · rw [max_eq_right hle] at hdelay
      rcases h.lasts with hzero | ⟨n, d, hd, hlast⟩
      · -- Nothing was asked for before, so the new one asks for nothing as well.
        have hasked : b.config.asked draws.length random = 0 := by omega
        refine ⟨draws.length, le_rfl, new, hself, ?_⟩
        rw [hdelay, hzero]
        exact hasked
      · obtain ⟨i, hi, d', hd', hasked⟩ := (h.grows.longest n d hd).1
        refine ⟨i, by have := hkept hd; omega, d', ?_, ?_⟩
        · rw [List.getElem?_append_left (hkept hd')]
          exact hd'
        · rw [hasked, hlast, hdelay]
  · rintro x ⟨i, -, d', hd', rfl⟩
    rw [hdelay]
    rcases getElem?_concat_cases hd' with ⟨hi, hd'⟩ | ⟨rfl, rfl⟩
    · have hown := (h.grows.longest i d' hd').2 ⟨i, le_rfl, d', hd', rfl⟩
      have hcovered := h.covers d' (List.mem_of_getElem? hd')
      exact (hown.trans hcovered).trans (le_max_right _ _)
    · exact le_max_left _ _

theorem next (h : Tracks b draws) (random : Float) :
    Tracks (b.next random).2 (draws ++ [⟨random, (b.next random).1⟩]) := by
  have hdelay := h.delay_eq random
  have hcovered : b.lastDelayMs ≤ (b.next random).1 := by
    rw [hdelay]
    exact le_max_right _ _
  have hbounded : (b.next random).1 ≤ b.config.full draws.length := by
    rw [hdelay]
    exact max_le (b.config.asked_le _ _) (h.attempt ▸ h.bounded)
  constructor
  · change b.attempt + 1 = _
    rw [h.attempt, List.length_append, List.length_singleton]
  · intro d hd
    rcases List.mem_append.mp hd with hold | hlast
    · exact (h.covers d hold).trans hcovered
    · rw [List.mem_singleton.mp hlast]
      exact le_rfl
  · exact .inr ⟨draws.length, _, List.getElem?_concat_length, rfl⟩
  · change (b.next random).1 ≤ b.config.full (b.attempt + 1)
    rw [h.attempt]
    exact hbounded.trans (b.config.full_le_succ _)
  · constructor
    · rw [List.pairwise_append]
      refine ⟨h.grows.sorted, List.pairwise_singleton _ _, ?_⟩
      intro d hd d' hd'
      rw [List.mem_singleton.mp hd']
      exact (h.covers d hd).trans hcovered
    · intro n d hd
      rcases getElem?_concat_cases hd with ⟨-, hold⟩ | ⟨rfl, rfl⟩
      · exact h.grows.bounded n d hold
      · exact hbounded
    · intro n d hd
      rcases getElem?_concat_cases hd with ⟨hn, hold⟩ | ⟨rfl, rfl⟩
      · rw [askedUpTo_append hn]
        exact h.grows.longest n d hold
      · exact h.longest_next random

end Tracks

namespace Course

/-- Every stretch grows, and the run keeps track of the last one. -/
structure Sound (config : BackoffConfig) (c : Course) : Prop where
  config_eq : c.backoff.config = config
  past : ∀ draws ∈ c.past, Grows config draws
  current : Tracks c.backoff c.current

theorem Sound.take {c : Course} (h : c.Sound config) (t : Turn) : (c.take t).Sound config := by
  obtain ⟨rfl, hpast, hcurrent⟩ := h
  cases t with
  | next random => exact ⟨rfl, hpast, hcurrent.next random⟩
  | reset =>
    refine ⟨rfl, ?_, .fresh rfl rfl⟩
    intro draws hdraws
    rcases List.mem_append.mp hdraws with hold | hlast
    · exact hpast draws hold
    · rw [List.mem_singleton.mp hlast]
      exact hcurrent.grows

theorem Sound.run (config : BackoffConfig) (turns : List Turn) : (run config turns).Sound config := by
  have hstart : (start config).Sound config := ⟨rfl, by simp [start], .fresh rfl rfl⟩
  unfold Course.run
  generalize start config = c at hstart ⊢
  induction turns generalizing c with
  | nil => exact hstart
  | cons t turns ih => exact ih _ (hstart.take t)

theorem Sound.grows {c : Course} (h : c.Sound config) {draws : List Draw}
    (hd : draws ∈ c.stretches) : Grows config draws := by
  rcases List.mem_append.mp hd with hpast | hcurrent
  · exact h.past draws hpast
  · rw [List.mem_singleton.mp hcurrent, ← h.config_eq]
    exact h.current.grows

end Course

theorem Grows.le_maxDelayMs (h : Grows config draws) {d : Draw} (hd : d ∈ draws) :
    d.delay ≤ config.maxDelayMs := by
  obtain ⟨n, hn⟩ := List.getElem?_of_mem hd
  exact (h.bounded n d hn).trans (config.full_le n)

/-- A delay without jitter is the capped power of two, whatever 64 bit numbers it is made of, and grows
with each of them. In every run of attempts, with any random numbers and resets, the delays between
resets grow within these bounds. The attempts are counted from the last reset. -/
theorem delays_bounded (config : BackoffConfig) (turns : List Turn) :
    (∀ (a : UInt32) (b m : UInt64),
      backoffDelay a.toNat b.toNat m.toNat = min m.toNat (b.toNat * 2 ^ min a.toNat 31)) ∧
    ((∀ b m, Monotone fun a => backoffDelay a b m) ∧ (∀ a m, Monotone fun b => backoffDelay a b m) ∧
      ∀ a b, Monotone fun m => backoffDelay a b m) ∧
    (∀ draws ∈ (Course.run config turns).stretches,
      Grows config draws ∧ ∀ d ∈ draws, d.delay ≤ config.maxDelayMs) ∧
    (Course.run config turns).backoff.attempt = (Course.run config turns).current.length ∧
    ((Course.run config turns).backoff.exhausted = true ↔
      config.maxAttempts ≤ (Course.run config turns).current.length) := by
  have hsound := Course.Sound.run config turns
  have hattempt := hsound.current.attempt
  refine ⟨?_, ⟨?_, ?_, ?_⟩, ?_, hattempt, ?_⟩
  · intro a b m
    have hm : m.toNat ≤ Json.maxUnsigned := Nat.le_sub_one_of_lt m.toNat_lt
    exact backoffDelay_eq a.toNat b.toNat hm
  · intro b m a a' ha
    exact backoffDelay_mono ha le_rfl le_rfl
  · intro a m b b' hb
    exact backoffDelay_mono le_rfl hb le_rfl
  · intro a b m m' hm
    exact backoffDelay_mono le_rfl le_rfl hm
  · intro draws hd
    exact ⟨hsound.grows hd, fun d => (hsound.grows hd).le_maxDelayMs⟩
  · rw [← hattempt, exhausted, hsound.config_eq, decide_eq_true_iff]

/-- A base delay above the cap, and a jitter that is no number. -/
theorem delays_bounded_overflow :
    let config : BackoffConfig :=
      { maxAttempts := 2, baseDelayMs := Json.maxUnsigned, maxDelayMs := 5000, jitterFactor := 0 / 0 }
    let c := Course.run config [.next 0.5, .reset, .next 0.25, .next (1 / 0)]
    c.current ∈ c.stretches ∧ c.current.length = 2 ∧ c.past.length = 1 ∧
      (∀ d ∈ c.current, d.delay ≤ 5000) ∧ c.backoff.exhausted = true := by
  intro config c
  have hmem : c.current ∈ c.stretches := List.mem_append_right _ List.mem_cons_self
  have hbounded := delays_bounded config [.next 0.5, .reset, .next 0.25, .next (1 / 0)]
  obtain ⟨-, -, hstretches, -, hexhausted⟩ := hbounded
  exact ⟨hmem, rfl, rfl, (hstretches c.current hmem).2, hexhausted.mpr le_rfl⟩

end Backoff

end Fanout
