import Fanout.Decimal.Shortest

/-!
JSON numbers. A number is an integer if it was written without a fraction and an exponent and fits
64 bits with or without sign, else a double precision number.
-/
namespace Fanout.Json

inductive Number where
  | int (n : Int)
  | float (x : Float)

/-- Largest integer that is kept exactly. -/
def maxUnsigned : Nat := Nat.pow 2 64 - 1

/-- Size of the smallest integer that is kept exactly. -/
def maxNegative : Nat := Nat.pow 2 63

def natDigits (n : Nat) : List Char := Nat.toDigits 10 n

def intDigits : Int → List Char
  | .ofNat n => natDigits n
  | .negSucc n => '-' :: natDigits (n + 1)

/-- Decimal exponents of the leading digit that are written without an exponent mark. -/
def positionalFrom : Int := -5

/-- The first decimal exponent that is written with an exponent mark again. -/
def exponentFrom : Int := 16

/-- Writes `s` with a point or, far from one, with an exponent. An integral number keeps `.0`. -/
def scaledDigits (s : Decimal.Scaled) : List Char :=
  let ds := natDigits s.digits
  let lead : Int := s.exponent + (ds.length : Int) - 1
  if s.digits = 0 then "0.0".toList
  else if lead < positionalFrom ∨ exponentFrom ≤ lead then
    let mark := if lead < 0 then '-' :: natDigits lead.natAbs else '+' :: natDigits lead.natAbs
    match ds with
    | [d] => d :: 'e' :: mark
    | d :: rest => d :: '.' :: rest ++ 'e' :: mark
    | [] => []
  else if 0 ≤ s.exponent then ds ++ List.replicate s.exponent.toNat '0' ++ ['.', '0']
  else if 0 ≤ lead then
    let whole := lead.toNat + 1
    ds.take whole ++ '.' :: ds.drop whole
  else '0' :: '.' :: List.replicate (-lead - 1).toNat '0' ++ ds

def floatDigits (x : Float) : List Char :=
  let text := scaledDigits (Decimal.Magnitude.ofBits x.toBits).shortest
  if Decimal.isNegative x.toBits then '-' :: text else text

def Number.digits : Number → List Char
  | .int n => intDigits n
  | .float x => floatDigits x

end Fanout.Json
