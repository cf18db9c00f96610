import Fanout.Time.Date
import Fanout.Text.Blank

/-!
Instants of universal time and their text. Fractions have nanosecond precision, and the second
after the last of a minute is kept apart from the first of the next one.
-/
namespace Fanout.Time

/-- An instant. In a leap second `second` stays the last of its minute and `nanos` goes on from
one second up. -/
structure Timestamp where
  date : Date
  /-- Second of the day. -/
  second : Nat
  nanos : Nat
  deriving DecidableEq

/-- Whether `a` is not after `b`. -/
def Timestamp.isUntil (a b : Timestamp) : Bool :=
  let parts (t : Timestamp) : List Int := [t.date.year, t.date.month, t.date.day, t.second, t.nanos]
  !(parts b).lex (parts a)

def secondsPerDay : Nat := 86400

def nanosPerSecond : Nat := 1000000000

/-- Why a text is not a timestamp. -/
inductive TimestampError where
  | outOfRange
  | impossible
  | invalid
  | tooShort
  | tooLong
  deriving DecidableEq

def TimestampError.message : TimestampError → String
  | .outOfRange => "input is out of range"
  | .impossible => "no possible date and time matching input"
  | .invalid => "input contains invalid characters"
  | .tooShort => "premature end of input"
  | .tooLong => "trailing input"

/-- Decimal digits, with zeros in front up to the width. -/
def padded (width n : Nat) : List Char :=
  let ds := Nat.toDigits 10 n
  List.replicate (width - ds.length) '0' ++ ds

/-- Years outside of four digits carry a sign. -/
def yearChars (y : Int) : List Char :=
  if 0 ≤ y ∧ y ≤ 9999 then padded 4 y.toNat
  else if 0 ≤ y then '+' :: padded 4 y.toNat
  else '-' :: padded 4 y.natAbs

/-- Digits of the fraction of a second. -/
inductive Precision where
  /-- None, three, six or nine digits, as few as are exact. -/
  | exact
  /-- Three digits, the rest cut off. -/
  | millis

def fractionChars (p : Precision) (nanos : Nat) : List Char :=
  match p with
  | .millis => '.' :: padded 3 (nanos / 1000000)
  | .exact =>
    if nanos = 0 then []
    else if nanos % 1000000 = 0 then '.' :: padded 3 (nanos / 1000000)
    else if nanos % 1000 = 0 then '.' :: padded 6 (nanos / 1000)
    else '.' :: padded 9 nanos

def Timestamp.chars (p : Precision) (t : Timestamp) : List Char :=
  let leap := nanosPerSecond ≤ t.nanos
  yearChars t.date.year ++ '-' :: padded 2 t.date.month ++ '-' :: padded 2 t.date.day ++
    'T' :: padded 2 (t.second / 3600) ++ ':' :: padded 2 (t.second / 60 % 60) ++
    ':' :: padded 2 (t.second % 60 + if leap then 1 else 0) ++
    fractionChars p (if leap then t.nanos - nanosPerSecond else t.nanos) ++ ['Z']

def Timestamp.render (t : Timestamp) : String := String.ofList (t.chars .exact)

def Timestamp.renderMillis (t : Timestamp) : String := String.ofList (t.chars .millis)

def isDigit (c : Char) : Bool := '0' ≤ c && c ≤ '9'

def numberValue (ds : List Char) : Nat := ds.foldl (fun n c => n * 10 + (c.toNat - 48)) 0

/-- Reads one to `width` digits. -/
def readDigits (width : Nat) (cs : List Char) : Except TimestampError (List Char × List Char) :=
  let ds := (cs.take width).takeWhile isDigit
  if cs.isEmpty then .error .tooShort
  else if ds.isEmpty then .error .invalid
  else .ok (ds, cs.drop ds.length)

/-- Reads a number of at most `width` digits from `lo` to `hi`, after blanks. -/
def readWithin (width lo hi : Nat) (cs : List Char) : Except TimestampError (Nat × List Char) := do
  let (ds, rest) ← readDigits width (Text.trimStart cs)
  let n := numberValue ds
  if lo ≤ n ∧ n ≤ hi then .ok (n, rest) else .error .outOfRange

/-- Reads a year: up to four digits, or any number of them after a sign. -/
def readYear (cs : List Char) : Except TimestampError (Int × List Char) := do
  let cs := Text.trimStart cs
  let (y, rest) ← match cs with
    | '-' :: r => do
      let (ds, rest) ← readDigits r.length r
      .ok (-(numberValue ds : Int), rest)
    | '+' :: r => do
      let (ds, rest) ← readDigits r.length r
      .ok ((numberValue ds : Int), rest)
    | _ => do
      let (ds, rest) ← readDigits 4 cs
      .ok ((numberValue ds : Int), rest)
  if -(Nat.pow 2 31 : Nat) ≤ y ∧ y < (Nat.pow 2 31 : Nat) then .ok (y, rest) else .error .outOfRange

/-- Reads a mark, after blanks. -/
def readMark (mark : Char) (cs : List Char) : Except TimestampError (List Char) :=
  match Text.trimStart cs with
  | [] => .error .tooShort
  | c :: r => if c = mark then .ok r else .error .invalid

/-- Reads the fraction of a second, if there is a point. Digits beyond the ninth are dropped. -/
def readFraction (cs : List Char) : Except TimestampError (Nat × List Char) :=
  match cs with
  | '.' :: r => do
    let (ds, rest) ← readDigits 9 r
    .ok (numberValue ds * Nat.pow 10 (9 - ds.length), rest.dropWhile isDigit)
  | _ => .ok (0, cs)

/-- Reads two digits, of which `tens` bounds the first. -/
def readTwo (tens : Nat) (cs : List Char) : Except TimestampError (Nat × List Char) :=
  if cs.foldr (fun c n => c.utf8Size + n) 0 < 2 then .error .tooShort
  else match cs with
    | a :: b :: rest =>
      if !isDigit a || !isDigit b then .error .invalid
      else if tens < a.toNat - 48 then .error .outOfRange
      else .ok ((a.toNat - 48) * 10 + (b.toNat - 48), rest)
    | _ => .error .invalid

/-- Reads how many seconds local time is ahead of universal time. -/
def readOffset (cs : List Char) : Except TimestampError (Int × List Char) := do
  match cs with
  | 'Z' :: r | 'z' :: r => .ok (0, r)
  | [] => .error .tooShort
  | sign :: r =>
    if sign.toUpper = 'U' ∧ (r.take 2).map Char.toUpper = ['T', 'C'] then .ok (0, r.drop 2)
    else if sign ≠ '+' ∧ sign ≠ '-' ∧ sign ≠ '−' then .error .invalid
    else
      let (hours, r) ← readTwo 9 r
      let (minutes, r) ← readTwo 5 (r.dropWhile fun c => c == ':' || Text.isBlank c)
      let seconds : Int := hours * 3600 + minutes * 60
      .ok (if sign = '+' then seconds else -seconds, r)

/-- The instant at which local time, ahead by `offset` seconds, shows this date and time. -/
def Timestamp.ofLocal (date : Date) (second nanos : Nat) (offset : Int) :
    Except TimestampError Timestamp :=
  if ¬ date.Valid ∨ offset.natAbs ≥ secondsPerDay then .error .outOfRange
  else
    let s : Int := second - offset
    if s < 0 then
      match date.prev? with
      | some d => .ok ⟨d, (s + secondsPerDay).toNat, nanos⟩
      | none => .error .impossible
    else if (secondsPerDay : Int) ≤ s then
      match date.next? with
      | some d => .ok ⟨d, (s - secondsPerDay).toNat, nanos⟩
      | none => .error .impossible
    else .ok ⟨date, s.toNat, nanos⟩

def Timestamp.ofChars (cs : List Char) : Except TimestampError Timestamp := do
  let (year, cs) ← readYear cs
  let cs ← readMark '-' cs
  let (month, cs) ← readWithin 2 1 12 cs
  let cs ← readMark '-' cs
  let (day, cs) ← readWithin 2 1 31 cs
  let cs ← match cs with
    | 'T' :: r | 't' :: r | ' ' :: r => .ok r
    | [] => .error .tooShort
    | _ => .error .invalid
  let (hour, cs) ← readWithin 2 0 23 cs
  let cs ← readMark ':' cs
  let (minute, cs) ← readWithin 2 0 59 cs
  let cs ← readMark ':' cs
  let (second, cs) ← readWithin 2 0 60 cs
  let (fraction, cs) ← readFraction cs
  let (offset, cs) ← readOffset (Text.trimStart cs)
  if !(Text.trimStart cs).isEmpty then .error .tooLong
  else
    let leap := second = 60
    Timestamp.ofLocal ⟨year, month, day⟩
      (hour * 3600 + minute * 60 + if leap then 59 else second)
      (fraction + if leap then nanosPerSecond else 0) offset

def Timestamp.parse (s : String) : Except TimestampError Timestamp := Timestamp.ofChars s.toList

end Fanout.Time
