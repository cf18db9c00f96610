/-! Days of the proleptic Gregorian calendar. -/
namespace Fanout.Time

structure Date where
  year : Int
  month : Nat
  day : Nat
  deriving DecidableEq

/-- The first and the last year with dates. -/
def minYear : Int := -262143

def maxYear : Int := 262142

def isLeapYear (y : Int) : Bool := y % 4 == 0 && (y % 100 != 0 || y % 400 == 0)

def daysInMonth (y : Int) (m : Nat) : Nat :=
  if m = 2 then if isLeapYear y then 29 else 28
  else if m = 4 ∨ m = 6 ∨ m = 9 ∨ m = 11 then 30
  else 31

/-- Whether there is such a day. -/
def Date.Valid (d : Date) : Prop :=
  minYear ≤ d.year ∧ d.year ≤ maxYear ∧ 1 ≤ d.month ∧ d.month ≤ 12 ∧ 1 ≤ d.day ∧
    d.day ≤ daysInMonth d.year d.month

instance (d : Date) : Decidable d.Valid := by unfold Date.Valid; infer_instance

/-- The day after, unless the calendar ends. -/
def Date.next? (d : Date) : Option Date :=
  if d.day < daysInMonth d.year d.month then some { d with day := d.day + 1 }
  else if d.month < 12 then some ⟨d.year, d.month + 1, 1⟩
  else if d.year < maxYear then some ⟨d.year + 1, 1, 1⟩
  else none

/-- The day before, unless the calendar starts. -/
def Date.prev? (d : Date) : Option Date :=
  if 1 < d.day then some { d with day := d.day - 1 }
  else if 1 < d.month then some ⟨d.year, d.month - 1, daysInMonth d.year (d.month - 1)⟩
  else if minYear < d.year then some ⟨d.year - 1, 12, 31⟩
  else none

end Fanout.Time
