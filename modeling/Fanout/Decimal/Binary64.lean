/-! Double precision numbers as integers scaled by a power of two. -/
namespace Fanout.Decimal

/-- The magnitude of a finite number: `mantissa` times two to the power `exponent`. -/
structure Magnitude where
  mantissa : Nat
  exponent : Int
  deriving DecidableEq

/-- The smallest exponent a mantissa is scaled by. -/
def minExponent : Int := -1074

/-- The mantissa at which the spacing of the numbers below is half of that above. -/
def hiddenBit : Nat := Nat.pow 2 52

/-- The magnitude behind the bits of a finite number. -/
def Magnitude.ofBits (bits : UInt64) : Magnitude :=
  let fraction := bits.toNat % hiddenBit
  let biased := bits.toNat / hiddenBit % 2048
  if biased = 0 then ⟨fraction, minExponent⟩
  else ⟨hiddenBit + fraction, minExponent + (biased - 1 : Nat)⟩

def isNegative (bits : UInt64) : Bool := Nat.pow 2 63 ≤ bits.toNat

/-- A magnitude counted in quarters of the spacing above it, with the two halfway points to its
neighbours. What lies between the halfway points is rounded to this number, and the halfway points
are too when the mantissa is even. -/
structure Reach where
  below : Nat
  value : Nat
  above : Nat
  /-- All three are over this denominator. -/
  den : Nat
  closed : Bool

def Magnitude.reach (m : Magnitude) : Reach :=
  let up := Nat.pow 2 (m.exponent - 2).toNat
  let gap := if m.mantissa = hiddenBit ∧ minExponent < m.exponent then 1 else 2
  { below := (4 * m.mantissa - gap) * up
    value := 4 * m.mantissa * up
    above := (4 * m.mantissa + 2) * up
    den := Nat.pow 2 (2 - m.exponent).toNat
    closed := m.mantissa % 2 == 0 }

end Fanout.Decimal
