import Fanout.Settings.Basic

/-! What a client session is given. -/
namespace Fanout

structure SessionConfig where
  url : String
  /-- Sent with every handshake, the same each time. -/
  sessionId : String
  heartbeatMs : Nat := 30000
  pongTimeoutMs : Nat := 60000
  maxMissedPongs : Nat := 3
  bufferCapacity : Nat := 100
  connectTimeoutMs : Nat := 10000
  backoff : BackoffConfig := {}

namespace SessionConfig

def ofSettings (c : ClientSettings) (sessionId : String) : SessionConfig where
  url := c.url
  sessionId := sessionId
  heartbeatMs := c.heartbeatIntervalMs
  pongTimeoutMs := c.effectivePongTimeoutMs
  maxMissedPongs := max c.maxMissedPongs 1
  bufferCapacity := c.outboundCapacity
  backoff := c.backoff

/-- The address to connect to, with the session in its query. -/
def connectUrl (c : SessionConfig) : String :=
  c.url ++ (if c.url.toList.contains '?' then "&" else "?") ++ "session=" ++ c.sessionId

end SessionConfig

end Fanout
