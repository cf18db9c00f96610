/-! Messages kept while a session is not connected. -/
namespace Fanout

/-- A bounded queue of messages, the oldest first. -/
structure Buffer where
  capacity : Nat
  messages : List String := []
  /-- Messages lost because the buffer was full. A counter of 64 bits agrees up to `2 ^ 64 - 1`. -/
  dropped : Nat := 0
  deriving DecidableEq

namespace Buffer

/-- An empty buffer. It has room for one message at least. -/
def new (capacity : Nat) : Buffer := { capacity := max capacity 1 }

def size (b : Buffer) : Nat := b.messages.length

def isFull (b : Buffer) : Bool := b.capacity ≤ b.messages.length

/-- Adds a message. A full buffer loses its oldest one, which is reported. -/
def push (b : Buffer) (m : String) : Bool × Buffer :=
  if b.isFull then
    (true, { b with messages := b.messages.tail ++ [m], dropped := b.dropped + 1 })
  else (false, { b with messages := b.messages ++ [m] })

/-- Puts back a message that could not be sent. It is older than all others, so a full buffer loses
it, which is reported. -/
def pushFront (b : Buffer) (m : String) : Bool × Buffer :=
  if b.isFull then (true, { b with dropped := b.dropped + 1 })
  else (false, { b with messages := m :: b.messages })

/-- Takes the oldest message. -/
def pop (b : Buffer) : Option String × Buffer :=
  (b.messages.head?, { b with messages := b.messages.tail })

def clear (b : Buffer) : Buffer := { b with messages := [] }

end Buffer

end Fanout
