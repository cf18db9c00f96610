import Fanout.Json.Printer

/-! Identifiers of subscriptions and connections. -/
namespace Fanout

/-- Subscriptions are numbered from one in the order made. -/
structure SubscriptionId where
  number : Nat
  deriving DecidableEq, Hashable

namespace SubscriptionId

def display (id : SubscriptionId) : String := "sub-" ++ String.ofList (Json.natDigits id.number)

def encode (id : SubscriptionId) : String := (Json.Value.nat id.number).render

end SubscriptionId

structure ConnectionId where
  text : String
  deriving DecidableEq, Hashable

namespace ConnectionId

def encode (id : ConnectionId) : String := (Json.Value.str id.text).render

/-- What every generated identifier starts with. -/
def head : String := "conn_"

end ConnectionId

/-- What every generated session identifier starts with. -/
def sessionHead : String := "sess_"

/-- Two hexadecimal digits for each byte. -/
def hexPairs (bytes : List UInt8) : List Char :=
  bytes.flatMap fun b => [Json.hexDigit (b.toNat / 16), Json.hexDigit (b.toNat % 16)]

/-- A version 7 identifier: 48 bits of milliseconds, then random bits around the marks of version
and variant. -/
def uuidText (millis : Nat) (random : Nat) : String :=
  let byte (n shift : Nat) : UInt8 := (n / Nat.pow 2 shift % 256).toUInt8
  let time := [40, 32, 24, 16, 8, 0].map (byte millis)
  let version : UInt8 := 0x70 + (random / Nat.pow 2 72 % 16).toUInt8
  let variant : UInt8 := 0x80 + (random / Nat.pow 2 56 % 64).toUInt8
  let tail := [48, 40, 32, 24, 16, 8, 0].map (byte random)
  String.ofList (hexPairs (time.take 4) ++ '-' :: hexPairs (time.drop 4) ++
    '-' :: hexPairs [version, byte random 64] ++ '-' :: hexPairs (variant :: tail.take 1) ++
    '-' :: hexPairs (tail.drop 1))

/-- A connection identifier made from a clock and a source of randomness. -/
def ConnectionId.fresh (millis random : Nat) : ConnectionId :=
  ⟨ConnectionId.head ++ uuidText millis random⟩

end Fanout
