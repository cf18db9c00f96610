import Fanout.Settings.Basic

/-! The bounded queue of frames waiting to be written to a connection. -/
namespace Fanout

/-- What became of a frame. -/
inductive PushOutcome where
  | queued
  /-- The oldest frame made room for it. -/
  | droppedOldest
  /-- It was refused, and the queue closed. -/
  | overflow
  /-- The queue was closed before. -/
  | closed
  deriving DecidableEq

namespace PushOutcome

/-- Whether a frame was lost. -/
def isDrop : PushOutcome → Bool
  | .droppedOldest | .overflow => true
  | .queued | .closed => false

def name : PushOutcome → String
  | .queued => "queued"
  | .droppedOldest => "dropped_oldest"
  | .overflow => "overflow"
  | .closed => "closed"

end PushOutcome

/-- Encoded frames, the oldest first. -/
structure OutboundQueue where
  capacity : Nat
  policy : OverflowPolicy
  frames : List String := []
  closed : Bool := false
  /-- Frames lost because the queue was full. A counter of 64 bits agrees up to `2 ^ 64 - 1`. -/
  dropped : Nat := 0
  deriving DecidableEq

namespace OutboundQueue

/-- An empty queue. It has room for one frame at least. -/
def new (capacity : Nat) (policy : OverflowPolicy) : OutboundQueue :=
  { capacity := max capacity 1, policy }

def size (q : OutboundQueue) : Nat := q.frames.length

/-- Adds a frame, as the policy says when the queue is full. -/
def push (q : OutboundQueue) (frame : String) : PushOutcome × OutboundQueue :=
  if q.closed then (.closed, q)
  else if q.frames.length < q.capacity then
    (.queued, { q with frames := q.frames ++ [frame] })
  else match q.policy with
    | .dropOldest =>
      (.droppedOldest, { q with frames := q.frames.tail ++ [frame], dropped := q.dropped + 1 })
    | .disconnect =>
      (.overflow, { q with frames := [], closed := true, dropped := q.dropped + 1 })

/-- Takes the oldest frame, if there is one. -/
def pop (q : OutboundQueue) : Option String × OutboundQueue :=
  if q.closed then (none, q) else (q.frames.head?, { q with frames := q.frames.tail })

/-- Drops all frames and takes no more. -/
def close (q : OutboundQueue) : OutboundQueue := { q with frames := [], closed := true }

end OutboundQueue

/-- A queue with at most one consumer waiting for a frame. -/
structure WaitingQueue where
  queue : OutboundQueue
  waiting : Bool := false

namespace WaitingQueue

/-- Lets a waiting consumer take its frame. It gets none when the queue is closed. Nothing if nobody
waits or there is nothing to take. -/
def serve (w : WaitingQueue) : Option (Option String) × WaitingQueue :=
  if w.waiting && (w.queue.closed || !w.queue.frames.isEmpty) then
    let (frame, q) := w.queue.pop
    (some frame, ⟨q, false⟩)
  else (none, w)

end WaitingQueue

end Fanout
