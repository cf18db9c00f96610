import Fanout.Settings.Basic

/-! What the server is given. -/
namespace Fanout

structure ServerConfig where
  host : String := "127.0.0.1"
  port : Nat := 0
  maxConnections : Nat := 1024
  heartbeatMs : Nat := 30000
  idleMs : Nat := 90000
  maxMessageSize : Nat := 65536
  shutdownMs : Nat := 10000
  outboundCapacity : Nat := 100
  overflowPolicy : OverflowPolicy := .dropOldest
  maxFirehose : Nat := 1
  maxSubscriptions : Nat := 64
  writeMs : Nat := 10000

namespace ServerConfig

def ofSettings (s : Settings) : ServerConfig where
  host := s.server.host
  port := s.server.port
  maxConnections := s.server.maxConnections
  heartbeatMs := s.server.heartbeatIntervalMs
  idleMs := s.server.idleTimeoutMs
  maxMessageSize := s.server.maxMessageSize
  shutdownMs := s.server.shutdownTimeoutMs
  outboundCapacity := s.connection.outboundCapacity
  overflowPolicy := s.connection.overflowPolicy
  maxFirehose := s.connection.maxFirehose
  maxSubscriptions := s.connection.maxSubscriptions
  writeMs := s.connection.writeTimeoutMs

/-- Where to listen. -/
def bindAddress (c : ServerConfig) : String :=
  c.host ++ ":" ++ String.ofList (Json.natDigits c.port)

end ServerConfig

end Fanout
