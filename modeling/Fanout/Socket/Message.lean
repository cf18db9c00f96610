/-! Messages on a socket, and the room they take on the wire. -/
namespace Fanout

inductive SocketMessage where
  | text (t : String)
  | binary (bytes : List UInt8)
  | ping (payload : List UInt8)
  | pong (payload : List UInt8)
  | close
  deriving DecidableEq

namespace SocketMessage

/-- The bytes that a message carries. -/
def payloadSize : SocketMessage → Nat
  | .text t => t.utf8ByteSize
  | .binary bytes | .ping bytes | .pong bytes => bytes.length
  | .close => 0

/-- The bytes of a message that the server sends: a header, longer for longer payloads, and the
payload. -/
def wireSize (m : SocketMessage) : Nat :=
  let n := m.payloadSize
  n + if n < 126 then 2 else if n < 65536 then 4 else 10

/-- The longest payload of a ping or a pong. -/
def maxControlSize : Nat := 125

/-- Whether a reader with this limit takes a message. -/
def isAllowed (limit : Nat) : SocketMessage → Bool
  | .text t => t.utf8ByteSize ≤ limit
  | .binary bytes => bytes.length ≤ limit
  | .ping payload | .pong payload => payload.length ≤ maxControlSize
  | .close => true

end SocketMessage

end Fanout
