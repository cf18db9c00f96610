/-! A lock that is handed on in the order in which it was asked for. -/
namespace Fanout

/-- `τ` names those who may hold it. -/
structure Gate (τ : Type) where
  holder : Option τ := none
  /-- Those who wait, the first to come first. Nobody waits for a gate that is free. -/
  waiting : List τ := []
  deriving DecidableEq

namespace Gate

variable {τ : Type} [DecidableEq τ]

/-- Asks for the gate: `p` has it at once or waits. -/
def request (g : Gate τ) (p : τ) : Gate τ :=
  match g.holder with
  | none => { g with holder := some p }
  | some _ => { g with waiting := g.waiting ++ [p] }

/-- Gives the gate to the next in line. -/
def release (g : Gate τ) : Gate τ := ⟨g.waiting.head?, g.waiting.tail⟩

def heldBy (g : Gate τ) (p : τ) : Bool := g.holder == some p

/-- `p` no longer wants the gate, whether it has it or waits for it. -/
def withdraw (g : Gate τ) (p : τ) : Gate τ :=
  if g.heldBy p then g.release else { g with waiting := g.waiting.filter (· ≠ p) }

end Gate

end Fanout
