import Fanout.Socket.Bytes
import Fanout.Socket.Message

/-! Messages of a socket as bytes. A message may come in several frames, with pings between them. -/
namespace Fanout

inductive Opcode where
  | continuation
  | text
  | binary
  | close
  | ping
  | pong
  deriving DecidableEq

namespace Opcode

def code : Opcode → Nat
  | .continuation => 0
  | .text => 1
  | .binary => 2
  | .close => 8
  | .ping => 9
  | .pong => 10

def all : List Opcode := [.continuation, .text, .binary, .close, .ping, .pong]

def ofCode? (n : Nat) : Option Opcode := all.find? (·.code == n)

/-- Whether it may stand between the frames of a message. -/
def isControl : Opcode → Bool
  | .close | .ping | .pong => true
  | _ => false

end Opcode

/-- A frame: a part of a message, or a whole one. -/
structure WireFrame where
  final : Bool := true
  opcode : Opcode
  payload : List UInt8
  deriving DecidableEq

/-- Each byte with one of the key in turn. Doing it twice undoes it. -/
def applyMask (key payload : List UInt8) : List UInt8 :=
  payload.zipIdx.map fun (b, i) => b ^^^ (key[i % 4]?).getD 0

namespace WireFrame

/-- The length of a payload, after the bit that tells whether it is masked. -/
def lengthBytes (mark n : Nat) : List UInt8 :=
  if n < 126 then [(mark + n).toUInt8]
  else if n < 65536 then (mark + 126).toUInt8 :: bigEndian 2 n
  else (mark + 127).toUInt8 :: bigEndian 8 n

/-- Frames of a client are masked with a key of four bytes, those of a server are not. -/
def encode (f : WireFrame) (key : Option (List UInt8)) : List UInt8 :=
  let first := ((if f.final then 128 else 0) + f.opcode.code).toUInt8
  match key with
  | none => first :: lengthBytes 0 f.payload.length ++ f.payload
  | some key => first :: lengthBytes 128 f.payload.length ++ key ++ applyMask key f.payload

end WireFrame

/-- What bytes begin with. -/
inductive FrameReading where
  /-- Less than a frame. -/
  | partly
  | broken
  | frame (f : WireFrame) (rest : List UInt8)

/-- The length that a frame announces, and what follows it. -/
def readLength (short : Nat) (bytes : List UInt8) : Option (Nat × List UInt8) :=
  let width := if short = 126 then 2 else if short = 127 then 8 else 0
  if width = 0 then some (short, bytes)
  else if bytes.length < width then none
  else some (ofBigEndian (bytes.take width), bytes.drop width)

/-- Reads a frame. A longer payload than `limit` is not waited for. -/
def readFrame (limit : Nat) : List UInt8 → FrameReading
  | first :: second :: rest =>
    match Opcode.ofCode? (first.toNat % 16) with
    | none => .broken
    | some opcode =>
      match readLength (second.toNat % 128) rest with
      | none => .partly
      | some (n, rest) =>
        if limit < n then .broken
        else
          let keySize := if 128 ≤ second.toNat then 4 else 0
          if rest.length < keySize + n then .partly
          else
            let payload := (rest.drop keySize).take n
            let payload := if keySize = 0 then payload else applyMask (rest.take 4) payload
            .frame ⟨128 ≤ first.toNat, opcode, payload⟩ (rest.drop (keySize + n))
  | _ => .partly

namespace SocketMessage

def toFrame : SocketMessage → WireFrame
  | .text t => { opcode := .text, payload := t.toUTF8.toList }
  | .binary bytes => { opcode := .binary, payload := bytes }
  | .ping payload => { opcode := .ping, payload }
  | .pong payload => { opcode := .pong, payload }
  | .close => { opcode := .close, payload := [] }

/-- The message of a whole payload. A text has to be one. -/
def ofPayload? (opcode : Opcode) (payload : List UInt8) : Option SocketMessage :=
  match opcode with
  | .text => (String.fromUTF8? ⟨payload.toArray⟩).map .text
  | .binary => some (.binary payload)
  | .ping => some (.ping payload)
  | .pong => some (.pong payload)
  | .close => some .close
  | .continuation => none

end SocketMessage

/-- A message of which some frames have come. -/
structure Assembly where
  begun : Option (Opcode × List UInt8) := none
  deriving DecidableEq

namespace Assembly

/-- Takes a frame; gives a message if it completes one. Nothing if frames come in a wrong order. -/
def feed (a : Assembly) (f : WireFrame) : Option (Option SocketMessage × Assembly) :=
  if f.opcode.isControl then
    if f.final && f.payload.length ≤ SocketMessage.maxControlSize then
      (SocketMessage.ofPayload? f.opcode f.payload).map fun m => (some m, a)
    else none
  else
    let whole := match a.begun, f.opcode with
      | some (opcode, before), .continuation => some (opcode, before ++ f.payload)
      | none, .continuation => none
      | none, opcode => some (opcode, f.payload)
      | some _, _ => none
    match whole with
    | none => none
    | some (opcode, payload) =>
      if f.final then (SocketMessage.ofPayload? opcode payload).map fun m => (some m, {})
      else some (none, ⟨some (opcode, payload)⟩)

end Assembly

end Fanout
