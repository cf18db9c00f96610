import Fanout.Time.Timestamp

/-! Instants counted from the first moment of 1970. -/
namespace Fanout.Time

/-- The date so many days after the first of January 1970. Years are counted from March, so that a leap
day comes last. -/
def Date.ofEpochDay (n : Nat) : Date :=
  let shifted := n + 719468
  let dayOfEra := shifted % 146097
  let yearOfEra := (dayOfEra - dayOfEra / 1460 + dayOfEra / 36524 - dayOfEra / 146096) / 365
  let dayOfYear := dayOfEra - (365 * yearOfEra + yearOfEra / 4 - yearOfEra / 100)
  let monthFromMarch := (5 * dayOfYear + 2) / 153
  let month := if monthFromMarch < 10 then monthFromMarch + 3 else monthFromMarch - 9
  let year := shifted / 146097 * 400 + yearOfEra + (if month ≤ 2 then 1 else 0)
  ⟨year, month, dayOfYear - (153 * monthFromMarch + 2) / 5 + 1⟩

/-- The instant so many nanoseconds after the first moment of 1970. -/
def Timestamp.ofEpochNanos (n : Nat) : Timestamp :=
  let seconds := n / nanosPerSecond
  ⟨.ofEpochDay (seconds / secondsPerDay), seconds % secondsPerDay, n % nanosPerSecond⟩

end Fanout.Time
