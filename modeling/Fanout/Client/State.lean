/-! Where a client session stands in its life. -/
namespace Fanout

inductive SessionState where
  /-- Not yet asked to connect. -/
  | idle
  /-- A handshake is under way. -/
  | connecting
  /-- Frames flow. -/
  | connected
  /-- The last attempt or connection failed. -/
  | disconnected
  /-- Waiting before the next attempt. -/
  | reconnecting
  /-- The end. -/
  | closed
  deriving DecidableEq

namespace SessionState

def all : List SessionState :=
  [.idle, .connecting, .connected, .disconnected, .reconnecting, .closed]

def name : SessionState → String
  | .idle => "idle"
  | .connecting => "connecting"
  | .connected => "connected"
  | .disconnected => "disconnected"
  | .reconnecting => "reconnecting"
  | .closed => "closed"

def isTerminal (s : SessionState) : Bool := s == .closed

/-- Whether a session may go from one state straight to the other. -/
def canBecome : SessionState → SessionState → Bool
  | .closed, _ => false
  | _, .closed => true
  | .idle, .connecting => true
  | .connecting, .connected => true
  | .connecting, .disconnected => true
  | .connected, .disconnected => true
  | .disconnected, .reconnecting => true
  | .reconnecting, .connecting => true
  | _, _ => false

end SessionState

end Fanout
