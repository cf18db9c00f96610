import Fanout.Socket.Message

/-! One direction of a socket in memory: it takes so many bytes, and then a write waits for a read. -/
namespace Fanout.Simulation

structure Pipe where
  capacity : Nat
  /-- Bytes that were taken and not read. -/
  used : Nat := 0
  /-- Messages that wait for room, each with the bytes of it that are left to take. -/
  outgoing : List (SocketMessage × Nat) := []
  /-- Messages taken whole and not read. -/
  arrived : List SocketMessage := []

namespace Pipe

/-- Splits waiting messages into those that fit in `free` bytes and the rest, and gives the bytes
taken. The first one that does not fit is taken in part. -/
def fill (free : Nat) : List (SocketMessage × Nat) →
    List SocketMessage × List (SocketMessage × Nat) × Nat
  | [] => ([], [], 0)
  | (m, left) :: rest =>
    if left ≤ free then
      let (taken, waiting, bytes) := fill (free - left) rest
      (m :: taken, waiting, left + bytes)
    else ([], (m, left - free) :: rest, free)

/-- Takes as much as there is room for. -/
def flow (p : Pipe) : Pipe :=
  let (taken, waiting, bytes) := fill (p.capacity - p.used) p.outgoing
  { p with used := p.used + bytes, outgoing := waiting, arrived := p.arrived ++ taken }

def write (p : Pipe) (m : SocketMessage) : Pipe :=
  flow { p with outgoing := p.outgoing ++ [(m, m.wireSize)] }

/-- Whether all that was written has been taken. -/
def isFlushed (p : Pipe) : Bool := p.outgoing.isEmpty

/-- Whether there is nothing to read. -/
def isEmpty (p : Pipe) : Bool := p.arrived.isEmpty && p.outgoing.isEmpty

/-- Reads everything; what waited for room comes after. -/
def readAll (p : Pipe) : List SocketMessage × Pipe :=
  (p.arrived ++ p.outgoing.map Prod.fst, { p with used := 0, outgoing := [], arrived := [] })

/-- The writing end is gone, and what waited for room is lost. -/
def cut (p : Pipe) : Pipe := { p with outgoing := [] }

end Pipe

end Fanout.Simulation
