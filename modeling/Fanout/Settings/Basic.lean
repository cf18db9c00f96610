import Fanout.Backoff
import Fanout.Json.Printer

/-! Settings and their compiled defaults. -/
namespace Fanout

/-- What happens when the outbound queue of a connection is full. -/
inductive OverflowPolicy where
  /-- The oldest frame makes room for the new one. -/
  | dropOldest
  /-- The connection is closed. -/
  | disconnect
  deriving DecidableEq

namespace OverflowPolicy

def name : OverflowPolicy → String
  | .dropOldest => "drop_oldest"
  | .disconnect => "disconnect"

def variants : List (String × OverflowPolicy) :=
  [("drop_oldest", .dropOldest), ("disconnect", .disconnect)]

def ofName? (s : String) : Option OverflowPolicy := variants.lookup s

end OverflowPolicy

structure ServerSettings where
  host : String := "127.0.0.1"
  port : Nat := 9850
  maxConnections : Nat := 1024
  heartbeatIntervalMs : Nat := 30000
  idleTimeoutMs : Nat := 90000
  maxMessageSize : Nat := 65536
  shutdownTimeoutMs : Nat := 10000

structure BusSettings where
  publishQueueCapacity : Nat := 1024

structure ConnectionSettings where
  outboundCapacity : Nat := 100
  overflowPolicy : OverflowPolicy := .dropOldest
  maxFirehose : Nat := 1
  maxSubscriptions : Nat := 64
  writeTimeoutMs : Nat := 10000

structure ClientSettings where
  url : String := "ws://127.0.0.1:9850/ws"
  heartbeatIntervalMs : Nat := 30000
  /-- Zero stands for twice the interval. -/
  pongTimeoutMs : Nat := 0
  maxMissedPongs : Nat := 3
  outboundCapacity : Nat := 100
  backoff : BackoffConfig := {}

structure LoggingSettings where
  level : String := "info"
  format : String := "compact"

structure Settings where
  server : ServerSettings := {}
  bus : BusSettings := {}
  connection : ConnectionSettings := {}
  client : ClientSettings := {}
  logging : LoggingSettings := {}

/-- How long a ping may go unanswered. -/
def ClientSettings.effectivePongTimeoutMs (c : ClientSettings) : Nat :=
  if c.pongTimeoutMs = 0 then saturatingMul c.heartbeatIntervalMs 2 else c.pongTimeoutMs

/-- The largest number of each kind of integer. -/
def maxPort : Nat := Nat.pow 2 16 - 1

def maxCount : Nat := Nat.pow 2 32 - 1

def portDecoder : Json.Decoder Nat := .natural "u16" maxPort

def countDecoder : Json.Decoder Nat := .natural "u32" maxCount

def millisDecoder : Json.Decoder Nat := .natural "u64" Json.maxUnsigned

def sizeDecoder : Json.Decoder Nat := .natural "usize" Json.maxUnsigned

def ServerSettings.shape : Json.Shape ServerSettings where
  name := "ServerSettings"
  fields :=
    [.default "host" .string fun x s => { s with host := x },
      .default "port" portDecoder fun x s => { s with port := x },
      .default "maxConnections" sizeDecoder fun x s => { s with maxConnections := x },
      .default "heartbeatIntervalMs" millisDecoder fun x s => { s with heartbeatIntervalMs := x },
      .default "idleTimeoutMs" millisDecoder fun x s => { s with idleTimeoutMs := x },
      .default "maxMessageSize" sizeDecoder fun x s => { s with maxMessageSize := x },
      .default "shutdownTimeoutMs" millisDecoder fun x s => { s with shutdownTimeoutMs := x }]
  blank := {}

def BusSettings.shape : Json.Shape BusSettings where
  name := "BusSettings"
  fields := [.default "publishQueueCapacity" sizeDecoder
    fun x s => { s with publishQueueCapacity := x }]
  blank := {}

def ConnectionSettings.shape : Json.Shape ConnectionSettings where
  name := "ConnectionSettings"
  fields :=
    [.default "outboundCapacity" sizeDecoder fun x s => { s with outboundCapacity := x },
      .default "overflowPolicy" (.enumeration OverflowPolicy.variants)
        fun x s => { s with overflowPolicy := x },
      .default "maxFirehose" sizeDecoder fun x s => { s with maxFirehose := x },
      .default "maxSubscriptions" sizeDecoder fun x s => { s with maxSubscriptions := x },
      .default "writeTimeoutMs" millisDecoder fun x s => { s with writeTimeoutMs := x }]
  blank := {}

def ClientSettings.shape : Json.Shape ClientSettings where
  name := "ClientSettings"
  fields :=
    [.default "url" .string fun x s => { s with url := x },
      .default "heartbeatIntervalMs" millisDecoder fun x s => { s with heartbeatIntervalMs := x },
      .default "pongTimeoutMs" millisDecoder fun x s => { s with pongTimeoutMs := x },
      .default "maxMissedPongs" countDecoder fun x s => { s with maxMissedPongs := x },
      .default "outboundCapacity" sizeDecoder fun x s => { s with outboundCapacity := x },
      .default "backoff" BackoffConfig.shape.decoder fun x s => { s with backoff := x }]
  blank := {}

def LoggingSettings.shape : Json.Shape LoggingSettings where
  name := "LoggingSettings"
  fields :=
    [.default "level" .string fun x s => { s with level := x },
      .default "format" .string fun x s => { s with format := x }]
  blank := {}

def Settings.shape : Json.Shape Settings where
  name := "HeraldSettings"
  fields :=
    [.default "server" ServerSettings.shape.decoder fun x s => { s with server := x },
      .default "bus" BusSettings.shape.decoder fun x s => { s with bus := x },
      .default "connection" ConnectionSettings.shape.decoder fun x s => { s with connection := x },
      .default "client" ClientSettings.shape.decoder fun x s => { s with client := x },
      .default "logging" LoggingSettings.shape.decoder fun x s => { s with logging := x }]
  blank := {}

def ServerSettings.toValue (s : ServerSettings) : Json.Value :=
  .obj [("heartbeatIntervalMs", .nat s.heartbeatIntervalMs), ("host", .str s.host),
    ("idleTimeoutMs", .nat s.idleTimeoutMs), ("maxConnections", .nat s.maxConnections),
    ("maxMessageSize", .nat s.maxMessageSize), ("port", .nat s.port),
    ("shutdownTimeoutMs", .nat s.shutdownTimeoutMs)]

def BusSettings.toValue (s : BusSettings) : Json.Value :=
  .obj [("publishQueueCapacity", .nat s.publishQueueCapacity)]

def ConnectionSettings.toValue (s : ConnectionSettings) : Json.Value :=
  .obj [("maxFirehose", .nat s.maxFirehose), ("maxSubscriptions", .nat s.maxSubscriptions),
    ("outboundCapacity", .nat s.outboundCapacity), ("overflowPolicy", .str s.overflowPolicy.name),
    ("writeTimeoutMs", .nat s.writeTimeoutMs)]

def ClientSettings.toValue (s : ClientSettings) : Json.Value :=
  .obj [("backoff", s.backoff.toValue), ("heartbeatIntervalMs", .nat s.heartbeatIntervalMs),
    ("maxMissedPongs", .nat s.maxMissedPongs), ("outboundCapacity", .nat s.outboundCapacity),
    ("pongTimeoutMs", .nat s.pongTimeoutMs), ("url", .str s.url)]

def LoggingSettings.toValue (s : LoggingSettings) : Json.Value :=
  .obj [("format", .str s.format), ("level", .str s.level)]

def Settings.toValue (s : Settings) : Json.Value :=
  .obj [("bus", s.bus.toValue), ("client", s.client.toValue),
    ("connection", s.connection.toValue), ("logging", s.logging.toValue),
    ("server", s.server.toValue)]

end Fanout
