/-!
A bounded queue between callers and one consumer. A caller holds a sender from before it sends until
it has returned, and the consumer may end only when no sender is left.
-/
namespace Fanout

structure Channel (α : Type) where
  capacity : Nat
  /-- What waits for the consumer, the oldest first. -/
  items : List α := []
  /-- Whether senders are still given out. -/
  accepting : Bool := true
  /-- Senders in the hands of callers. -/
  senders : Nat := 0
  /-- Callers that wait for room. -/
  waiting : Nat := 0
  /-- Room made by the consumer and set aside for callers that waited. -/
  reserved : Nat := 0

namespace Channel

variable {α : Type}

/-- An empty channel. It has room for one item at least. -/
def new (capacity : Nat) : Channel α := { capacity := max capacity 1 }

/-- Places that anyone may take. -/
def room (c : Channel α) : Nat := c.capacity - c.items.length - c.reserved

/-- Gives out a sender, unless that has ended. -/
def acquire (c : Channel α) : Option (Channel α) :=
  if c.accepting then some { c with senders := c.senders + 1 } else none

/-- Takes a sender back. -/
def release (c : Channel α) : Channel α := { c with senders := c.senders - 1 }

/-- Puts an item last if there is room. -/
def trySend (c : Channel α) (a : α) : Option (Channel α) :=
  if 0 < c.room then some { c with items := c.items ++ [a] } else none

/-- Queues a caller that found no room. -/
def wait (c : Channel α) : Channel α := { c with waiting := c.waiting + 1 }

/-- Puts an item last in a place set aside. -/
def sendReserved (c : Channel α) (a : α) : Option (Channel α) :=
  if 0 < c.reserved then
    some { c with items := c.items ++ [a], reserved := c.reserved - 1 }
  else none

/-- Takes the oldest item. Its place goes to a caller that waits, if there is one. -/
def receive (c : Channel α) : Option (α × Channel α) :=
  match c.items with
  | [] => none
  | a :: rest =>
    some (a,
      if 0 < c.waiting then
        { c with items := rest, waiting := c.waiting - 1, reserved := c.reserved + 1 }
      else { c with items := rest })

/-- Ends the giving out of senders. -/
def stop (c : Channel α) : Channel α := { c with accepting := false }

/-- Whether nothing is left and nothing can come. -/
def isFinished (c : Channel α) : Bool := c.items.isEmpty && !c.accepting && c.senders == 0

end Channel

end Fanout
