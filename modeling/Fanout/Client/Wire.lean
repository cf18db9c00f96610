import Fanout.Frame

/-! What a client has sent, over all of its connections. -/
namespace Fanout

/-- Something to send. -/
inductive Payload where
  /-- A frame of the session itself. -/
  | frame (f : ClientFrame)
  /-- A text of the application. -/
  | message (text : String)
  deriving DecidableEq

def Payload.text : Payload → String
  | .frame f => f.encode
  | .message t => t

/-- The connection in use and what went over it and those before. -/
structure Wire where
  /-- Connections accepted so far; the last one is in use. -/
  connection : Nat := 0
  /-- How many more sends succeed, unless all do. -/
  accepts : Option Nat := none
  /-- What was sent, the oldest first, with the number of its connection. -/
  sent : List (Nat × Payload) := []

namespace Wire

/-- A new connection that takes as many sends as given. -/
def renew (w : Wire) (accepts : Option Nat) : Wire :=
  { w with connection := w.connection + 1, accepts }

/-- Sends something and says whether that worked. -/
def send (w : Wire) (p : Payload) : Bool × Wire :=
  if w.accepts = some 0 then (false, w)
  else (true, { w with
    accepts := w.accepts.map (· - 1)
    sent := w.sent ++ [(w.connection, p)] })

end Wire

end Fanout
