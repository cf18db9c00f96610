import Fanout.Client.Error
import Fanout.Socket.Message

/-! What a client reads off its socket: texts only. -/
namespace Fanout

/-- What comes from the other end of a socket. -/
inductive PeerAct where
  | sends (m : SocketMessage)
  /-- The socket goes away without a word. -/
  | vanishes
  deriving DecidableEq

/-- The outcome of reading once. -/
inductive Reading where
  | text (t : String)
  | failed (e : TransportError)
  | closed
  deriving DecidableEq

/-- The error of a socket that went away without a word. -/
def vanished : TransportError :=
  .receive "WebSocket protocol error: Connection reset without closing handshake"

/-- Reads until there is a text or the end. Bytes that spell a text count as one; all else is passed
over. Nothing is read after the end. -/
def receive : List PeerAct → Reading × List PeerAct
  | [] => (.closed, [])
  | .vanishes :: _ => (.failed vanished, [])
  | .sends m :: rest =>
    match m with
    | .text t => (.text t, rest)
    | .binary bytes =>
      match String.fromUTF8? ⟨bytes.toArray⟩ with
      | some t => (.text t, rest)
      | none => receive rest
    | .ping _ | .pong _ => receive rest
    | .close => (.closed, [])

/-- Reads as many times as given. -/
def receiveMany : Nat → List PeerAct → List Reading
  | 0, _ => []
  | n + 1, acts =>
    let (reading, rest) := receive acts
    reading :: receiveMany n rest

end Fanout
