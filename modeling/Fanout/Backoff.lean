import Fanout.Json.Decoder

/-!
Growing delays between attempts to reconnect. A delay doubles with each attempt up to a cap, is
shortened at random, and never falls below the one before it.
-/
namespace Fanout

structure BackoffConfig where
  maxAttempts : Nat := 10
  baseDelayMs : Nat := 1000
  maxDelayMs : Nat := 30000
  jitterFactor : Float := 0.2

namespace BackoffConfig

def shape : Json.Shape BackoffConfig where
  name := "BackoffConfig"
  fields :=
    [.default "maxAttempts" (.natural "u32" (Nat.pow 2 32 - 1)) fun n c => { c with maxAttempts := n },
      .default "baseDelayMs" (.natural "u64" Json.maxUnsigned) fun n c => { c with baseDelayMs := n },
      .default "maxDelayMs" (.natural "u64" Json.maxUnsigned) fun n c => { c with maxDelayMs := n },
      .default "jitterFactor" .float fun x c => { c with jitterFactor := x }]
  blank := {}

def toValue (c : BackoffConfig) : Json.Value :=
  .obj [("baseDelayMs", .nat c.baseDelayMs), ("jitterFactor", .num (.float c.jitterFactor)),
    ("maxAttempts", .nat c.maxAttempts), ("maxDelayMs", .nat c.maxDelayMs)]

end BackoffConfig

/-- A product that stays at the largest 64 bit integer. -/
def saturatingMul (a b : Nat) : Nat := min (a * b) Json.maxUnsigned

/-- The doubling stops here; any longer and the cap holds anyway. -/
def maxDoublings : Nat := 31

/-- The delay before attempt number `attempt`, counted from zero, without jitter. -/
def backoffDelay (attempt base max : Nat) : Nat :=
  min (saturatingMul base (Nat.pow 2 (min attempt maxDoublings))) max

/-- Keeps a number between zero and one. What is no number stays so. -/
def clampUnit (x : Float) : Float := if x < 0 then 0 else if 1 < x then 1 else x

/-- The nearest integer, a half going away from zero, from zero to the largest of 64 bits. -/
def roundToUnsigned (x : Float) : Nat :=
  let r := x.round
  if 0 < r then r.toUInt64.toNat else 0

/-- The delay shortened by the part `jitter * random` of it. -/
def jitteredDelay (attempt base max : Nat) (jitter random : Float) : Nat :=
  let capped := backoffDelay attempt base max
  min (roundToUnsigned (capped.toUInt64.toFloat * (1 - clampUnit jitter * clampUnit random))) capped

/-- A run of attempts. -/
structure Backoff where
  config : BackoffConfig
  /-- Delays taken since the last reset. -/
  attempt : Nat := 0
  lastDelayMs : Nat := 0

namespace Backoff

/-- Whether no further attempt is allowed. -/
def exhausted (b : Backoff) : Bool := b.config.maxAttempts ≤ b.attempt

/-- The delay that a jittered one becomes. -/
def settle (b : Backoff) (jittered : Nat) : Nat :=
  min (max jittered b.lastDelayMs) b.config.maxDelayMs

/-- Takes the next delay. -/
def next (b : Backoff) (random : Float) : Nat × Backoff :=
  let delay := b.settle (jitteredDelay b.attempt b.config.baseDelayMs b.config.maxDelayMs
    b.config.jitterFactor random)
  (delay, { b with attempt := b.attempt + 1, lastDelayMs := delay })

/-- Starts over after a success. -/
def reset (b : Backoff) : Backoff := { b with attempt := 0, lastDelayMs := 0 }

end Backoff

end Fanout
