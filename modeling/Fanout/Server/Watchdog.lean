import Fanout.Server.Connection

/-! The watchdog looks at regular times whether a client has been silent for too long. -/
namespace Fanout

inductive IdleOutcome where
  | idle
  | cancelled
  deriving DecidableEq

structure Watchdog where
  period : Nat
  /-- How long a client may be silent. -/
  idleAfter : Nat
  /-- When it looks next. -/
  nextTick : Nat
  outcome : Option IdleOutcome := none
  deriving DecidableEq

namespace Watchdog

/-- Begins to watch. The first look comes after one interval, which is a millisecond at least. All
times are in units of the clock, of which so many make a `millisecond`. -/
def start (interval idleAfter now : Nat) (millisecond : Nat := 1) : Watchdog :=
  let period := max interval millisecond
  { period, idleAfter, nextTick := now + period }

/-- One look at the connection, when it is time for it. -/
def tick (w : Watchdog) (c : Connection) (now : Nat) : Watchdog :=
  if w.idleAfter ≤ c.idleFor now then { w with outcome := some .idle }
  else { w with nextTick := w.nextTick + w.period }

/-- Ends the watch of a closed connection, else looks if it is time. -/
def step (w : Watchdog) (c : Connection) (now : Nat) : Option Watchdog :=
  if w.outcome.isSome then none
  else if c.isClosed then some { w with outcome := some .cancelled }
  else if w.nextTick ≤ now then some (w.tick c now)
  else none

def alarm? (w : Watchdog) : Option Nat :=
  if w.outcome.isSome then none else some w.nextTick

end Watchdog

end Fanout
