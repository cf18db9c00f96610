import Fanout.Decimal.Binary64

/-!
The fewest decimal digits that read back as a given double precision number, and of these the
digits nearest to it.
-/
namespace Fanout.Decimal

/-- `digits` times ten to the power `exponent`. -/
structure Scaled where
  digits : Nat
  exponent : Int
  deriving DecidableEq

/-- `n` times ten to the power `e`, over the denominator `den`, compared with fractions over
`den`: both sides are scaled to integers. -/
structure Grid where
  /-- Factor of the grid point. -/
  point : Nat
  /-- Factor of the fraction's numerator. -/
  fraction : Nat

def Grid.ofExponent (den : Nat) (e : Int) : Grid :=
  ⟨Nat.pow 10 e.toNat * den, Nat.pow 10 (-e).toNat⟩

/-- Whether the `d`-th grid point reads back as the number. -/
def Reach.holds (r : Reach) (g : Grid) (d : Nat) : Bool :=
  let x := d * g.point
  let lo := r.below * g.fraction
  let hi := r.above * g.fraction
  if r.closed then lo ≤ x && x ≤ hi else lo < x && x < hi

/-- The better of the two grid points around the number, when one of them reads back. A tie goes
to the even point. -/
def Reach.pick? (r : Reach) (g : Grid) : Option Nat :=
  let v := r.value * g.fraction
  let d := v / g.point
  match r.holds g d, r.holds g (d + 1) with
  | false, false => none
  | true, false => some d
  | false, true => some (d + 1)
  | true, true =>
    let down := v - d * g.point
    let up := (d + 1) * g.point - v
    some (if down < up then d else if up < down then d + 1 else d + d % 2)

/-- The exponent of the leading digit of a positive fraction. -/
def leadingExponent (num den : Nat) : Int :=
  if den ≤ num then ((Nat.toDigits 10 (num / den)).length - 1 : Nat)
  else
    let j := (Nat.toDigits 10 den).length - (Nat.toDigits 10 num).length
    if den ≤ num * Nat.pow 10 j then -(j : Int) else -(j + 1 : Nat)

/-- Tries ever finer grids, at most `fuel` of them, from ten to the power `e` on. -/
def Reach.search (r : Reach) : (fuel : Nat) → (e : Int) → Scaled
  | 0, e => ⟨r.value * (Grid.ofExponent r.den e).fraction / (Grid.ofExponent r.den e).point, e⟩
  | fuel + 1, e =>
    match r.pick? (.ofExponent r.den e) with
    | some d => ⟨d, e⟩
    | none => r.search fuel (e - 1)

/-- Moves trailing zeros into the exponent; `fuel` bounds their number. -/
def Scaled.trim : (fuel : Nat) → Scaled → Scaled
  | 0, s => s
  | fuel + 1, s =>
    if s.digits % 10 = 0 ∧ s.digits ≠ 0 then Scaled.trim fuel ⟨s.digits / 10, s.exponent + 1⟩ else s

/-- Seventeen digits always read back, so no more grids are tried. -/
def Magnitude.shortest (m : Magnitude) : Scaled :=
  if m.mantissa = 0 then ⟨0, 0⟩
  else
    let r := m.reach
    (r.search 17 (leadingExponent r.value r.den)).trim 400

end Fanout.Decimal
