/-! Lists of pairs in which every key stands at most once. -/
namespace Fanout.Keyed

variable {κ α : Type} [DecidableEq κ]

def get? (k : κ) : List (κ × α) → Option α
  | [] => none
  | (k', a) :: rest => if k' = k then some a else get? k rest

def contains (k : κ) (m : List (κ × α)) : Bool := (get? k m).isSome

/-- Gives `k` the value `a`. A new key goes last. -/
def put (k : κ) (a : α) : List (κ × α) → List (κ × α)
  | [] => [(k, a)]
  | (k', a') :: rest => if k' = k then (k, a) :: rest else (k', a') :: put k a rest

def erase (k : κ) : List (κ × α) → List (κ × α)
  | [] => []
  | (k', a) :: rest => if k' = k then rest else (k', a) :: erase k rest

/-- Changes the value of `k`, if it has one. -/
def modify (k : κ) (f : α → α) : List (κ × α) → List (κ × α)
  | [] => []
  | (k', a) :: rest => if k' = k then (k', f a) :: rest else (k', a) :: modify k f rest

def keys (m : List (κ × α)) : List κ := m.map Prod.fst

end Fanout.Keyed
