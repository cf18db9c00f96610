import Fanout.Server.Registry

/-!
Graceful shutdown: close every connection, drain the bus, then wait for tasks. A call that takes too
long is given up where it stands.
-/
namespace Fanout

/-- How far a call has come. -/
inductive ShutdownStage where
  /-- Connections to close next. -/
  | closing (left : List ConnectionId)
  /-- Waiting for the last write of a connection that is being closed. -/
  | awaitingWrite (id : ConnectionId) (left : List ConnectionId)
  | draining
  /-- Waiting for tasks. -/
  | joining
  | finished
  deriving DecidableEq

namespace ShutdownStage

/-- Begins with the connections that are there. -/
def start (r : Registry) : ShutdownStage := .closing r.live

/-- One step, if the call need not wait. -/
def step (stage : ShutdownStage) (r : Registry) (tasksEnded : Bool) :
    Option (ShutdownStage × Registry) :=
  match stage with
  | .closing [] => some (.draining, { r with bus := r.bus.beginShutdown })
  | .closing (id :: left) =>
    match r.unregister id with
    | (false, r) => some (.closing left, r)
    | (true, r) => some (.awaitingWrite id left, r.beginClose id)
  | .awaitingWrite id left =>
    (r.endClose id).map fun r => (.closing left, r.dropSubscriptions id)
  | .draining =>
    if r.bus.draining = .done then some (.joining, r)
    else (r.bus.stepShutdown).map fun bus => (.draining, { r with bus })
  | .joining => if tasksEnded then some (.finished, r) else none
  | .finished => none

/-- Steps that a call may take without waiting. -/
def fuel : ShutdownStage → Nat
  | .closing left => 2 * left.length + 5
  | .awaitingWrite _ left => 2 * left.length + 6
  | _ => 5

/-- Goes on until the call has to wait, for at most `fuel` steps. -/
def runSteps (tasksEnded : Bool) : (fuel : Nat) → ShutdownStage → Registry → ShutdownStage × Registry
  | 0, stage, r => (stage, r)
  | fuel + 1, stage, r =>
    match stage.step r tasksEnded with
    | some (stage, r) => runSteps tasksEnded fuel stage r
    | none => (stage, r)

/-- Goes on until the call has to wait. -/
def run (stage : ShutdownStage) (r : Registry) (tasksEnded : Bool) : ShutdownStage × Registry :=
  runSteps tasksEnded stage.fuel stage r

/-- Gives the call up. -/
def abandon (stage : ShutdownStage) (r : Registry) : Registry :=
  match stage with
  | .awaitingWrite id _ => r.update id (·.abandonClose Registry.closeCall)
  | .draining => { r with bus := r.bus.abandonShutdown }
  | _ => r

end ShutdownStage

/-- The digits of a fraction of a second, in milliseconds, without zeros at the end. -/
def fractionDigits (ms : Nat) : List Char :=
  ((Time.padded 3 ms).reverse.dropWhile (· == '0')).reverse

/-- A length of time in its largest unit. -/
def durationText (ms : Nat) : String :=
  if ms = 0 then "0ns"
  else if ms < 1000 then String.ofList (Json.natDigits ms) ++ "ms"
  else if ms % 1000 = 0 then String.ofList (Json.natDigits (ms / 1000)) ++ "s"
  else String.ofList (Json.natDigits (ms / 1000) ++ '.' :: fractionDigits (ms % 1000)) ++ "s"

/-- What is logged when a shutdown takes longer than `ms`. -/
def shutdownTimedOut (ms : Nat) : LogRecord :=
  .warn ("shutdown timed out after " ++ durationText ms ++ ", some tasks may still be running") []

end Fanout
