import Fanout.Json.Error

/-! Reading of literals, numbers and strings from the head of a text. -/
namespace Fanout.Json

/-- Stops here: everything before `cs` has been read. -/
def stopAt (d : Defect) (cs : List Char) : Except Fault α := .error ⟨.defect d, byteCount cs⟩

/-- Stops on the first byte of `cs`, which counts as read if there is one. -/
def stopOn (d : Defect) (cs : List Char) : Except Fault α := .error ⟨.defect d, byteCount cs - 1⟩

/-- The white space between tokens. -/
def isSpace (c : Char) : Bool := c == ' ' || c == '\n' || c == '\t' || c == '\r'

def skipSpace (cs : List Char) : List Char := cs.dropWhile isSpace

/-- Reads the rest of a literal whose first letter has been read. -/
def readIdent : (letters : List Char) → List Char → Except Fault (List Char)
  | [], cs => .ok cs
  | _ :: _, [] => stopAt .eofValue []
  | l :: ls, c :: cs => if c = l then readIdent ls cs else stopOn .expectedIdent (c :: cs)

def isDigit (c : Char) : Bool := '0' ≤ c && c ≤ '9'

def digitValue (c : Char) : Nat := c.toNat - 48

/-- Appends decimal digits to a significand for as long as it fits 64 bits. Also counts them. -/
def absorb : (significand : Nat) → List Char → Nat × Nat
  | s, [] => (s, 0)
  | s, d :: ds =>
    let next := s * 10 + digitValue d
    if next ≤ maxUnsigned then
      let (t, k) := absorb next ds
      (t, k + 1)
    else (s, 0)

/-- Largest power of ten that is a double precision number. -/
def maxPower : Nat := 308

def powerOfTen (k : Nat) : Float := Float.ofScientific 1 false k

/-- Divides by ten to the power `k`, in steps that are numbers themselves. -/
def divideByPower : (fuel : Nat) → Float → (k : Nat) → Float
  | 0, x, _ => x
  | fuel + 1, x, k =>
    if k ≤ maxPower then x / powerOfTen k
    else if x == 0 then x
    else divideByPower fuel (x / powerOfTen maxPower) (k - maxPower)

/-- The significand times a power of ten, rounded after each operation. Nothing if that is too
large for a number. -/
def scale (significand : Nat) (exponent : Int) : Option Float :=
  let x := significand.toUInt64.toFloat
  if 0 ≤ exponent then
    if exponent.toNat ≤ maxPower then
      let y := x * powerOfTen exponent.toNat
      if y.isInf then none else some y
    else if x == 0 then some x
    else none
  else some (divideByPower 5 x exponent.natAbs)

/-- Largest exponent that is computed with. -/
def maxExponent : Nat := Nat.pow 2 31 - 1

/-- The value of an exponent, or the digits left after the first one with which it gets too large. -/
def readExponentValue : (value : Nat) → List Char → Except (List Char) Nat
  | v, [] => .ok v
  | v, d :: ds =>
    let next := v * 10 + digitValue d
    if maxExponent < next then .error ds else readExponentValue next ds

/-- Puts the number `significand` times ten to the power `exponent` together. -/
def finishFloat (negative : Bool) (significand : Nat) (exponent : Int) (rest : List Char) :
    Except Fault (Number × List Char) :=
  match scale significand exponent with
  | none => stopAt .numberOutOfRange rest
  | some x => .ok (.float (if negative then -x else x), rest)

/-- Reads what follows an exponent mark. -/
def readExponent (negative : Bool) (significand : Nat) (exponent : Int) (cs : List Char) :
    Except Fault (Number × List Char) :=
  let (minus, cs) := match cs with
    | '+' :: r => (false, r)
    | '-' :: r => (true, r)
    | _ => (false, cs)
  match cs with
  | [] => stopAt .eofValue []
  | c :: _ =>
    if !isDigit c then stopOn .invalidNumber cs
    else
      let rest := cs.dropWhile isDigit
      match readExponentValue 0 (cs.takeWhile isDigit) with
      | .ok e => finishFloat negative significand (exponent + if minus then -(e : Int) else e) rest
      | .error unread =>
        if significand ≠ 0 ∧ !minus then stopAt .numberOutOfRange (unread ++ rest)
        else .ok (.float (if negative then -0.0 else 0.0), rest)

/-- Reads what follows a decimal point. Digits that no longer fit the significand are dropped. -/
def readFraction (negative : Bool) (significand : Nat) (exponent : Int) (cs : List Char) :
    Except Fault (Number × List Char) :=
  let digits := cs.takeWhile isDigit
  let rest := cs.dropWhile isDigit
  if digits.isEmpty then
    match rest with
    | [] => stopOn .eofValue rest
    | _ => stopOn .invalidNumber rest
  else
    let (s, k) := absorb significand digits
    match rest with
    | 'e' :: r | 'E' :: r => readExponent negative s (exponent - k) r
    | _ => finishFloat negative s (exponent - k) rest

/-- An integer keeps its value if it fits 64 bits, and a negative zero its sign. -/
def finishInteger (negative : Bool) (significand : Nat) : Number :=
  if !negative then .int significand
  else if significand = 0 ∨ maxNegative < significand then .float (-significand.toUInt64.toFloat)
  else .int (-significand)

/-- Reads a number whose sign has been read. -/
def readNumber (negative : Bool) (cs : List Char) : Except Fault (Number × List Char) :=
  match cs with
  | [] => stopAt .eofValue []
  | c :: tail =>
    if !isDigit c then stopOn .invalidNumber cs
    else if c = '0' ∧ (tail.head?.any isDigit) then stopOn .invalidNumber tail
    else
      let digits := cs.takeWhile isDigit
      let rest := cs.dropWhile isDigit
      let (s, k) := absorb 0 digits
      let dropped := digits.length - k
      match rest with
      | '.' :: r => readFraction negative s dropped r
      | 'e' :: r | 'E' :: r => readExponent negative s dropped r
      | _ =>
        if dropped = 0 then .ok (finishInteger negative s, rest)
        else finishFloat negative s dropped rest

def hexValue? (c : Char) : Option Nat :=
  let n := c.toNat
  if 48 ≤ n ∧ n ≤ 57 then some (n - 48)
  else if 97 ≤ n ∧ n ≤ 102 then some (n - 87)
  else if 65 ≤ n ∧ n ≤ 70 then some (n - 55)
  else none

/-- Reads the four bytes after `\u`. -/
def readHex (cs : List Char) : Except Fault (Nat × List Char) :=
  if byteCount cs < 4 then stopAt .eofString []
  else
    let bad : Except Fault (Nat × List Char) := .error ⟨.defect .invalidEscape, byteCount cs - 4⟩
    match cs with
    | a :: b :: c :: d :: rest =>
      match hexValue? a, hexValue? b, hexValue? c, hexValue? d with
      | some a, some b, some c, some d => .ok (((a * 16 + b) * 16 + c) * 16 + d, rest)
      | _, _, _, _ => bad
    | _ => bad

/-- Reads the second half of a surrogate pair, from its backslash on. -/
def readTrailing (lead : Nat) (cs : List Char) : Except Fault (Char × List Char) := do
  let afterSlash ← match cs with
    | [] => stopAt .eofString []
    | '\\' :: r => .ok r
    | _ => stopOn .endOfHexEscape cs
  let afterMark ← match afterSlash with
    | [] => stopAt .eofString []
    | 'u' :: r => .ok r
    | _ => stopOn .endOfHexEscape afterSlash
  let (trail, rest) ← readHex afterMark
  if trail < 0xDC00 ∨ 0xDFFF < trail then stopAt .loneSurrogate rest
  else .ok (Char.ofNat ((lead - 0xD800) * 0x400 + (trail - 0xDC00) + 0x10000), rest)

/-- Reads an escape whose backslash has been read. -/
def readEscape (cs : List Char) : Except Fault (Char × List Char) :=
  match cs with
  | [] => stopAt .eofString []
  | '"' :: r => .ok ('"', r)
  | '\\' :: r => .ok ('\\', r)
  | '/' :: r => .ok ('/', r)
  | 'b' :: r => .ok ('\x08', r)
  | 'f' :: r => .ok ('\x0c', r)
  | 'n' :: r => .ok ('\n', r)
  | 'r' :: r => .ok ('\r', r)
  | 't' :: r => .ok ('\t', r)
  | 'u' :: r => do
    let (n, rest) ← readHex r
    if 0xDC00 ≤ n ∧ n ≤ 0xDFFF then stopAt .loneSurrogate rest
    else if 0xD800 ≤ n ∧ n ≤ 0xDBFF then readTrailing n rest
    else .ok (Char.ofNat n, rest)
  | _ => stopOn .invalidEscape cs

/-- Reads up to the closing quote. Each character read takes one of `fuel`. -/
def readChars : (fuel : Nat) → (reversed : List Char) → List Char → Except Fault (String × List Char)
  | 0, _, cs => stopAt .eofString cs
  | fuel + 1, acc, cs =>
    match cs with
    | [] => stopAt .eofString []
    | '"' :: r => .ok (String.ofList acc.reverse, r)
    | '\\' :: r =>
      match readEscape r with
      | .error f => .error f
      | .ok (c, rest) => readChars fuel (c :: acc) rest
    | c :: r =>
      if c.toNat < 0x20 then stopOn .controlCharacter cs else readChars fuel (c :: acc) r

/-- Reads a string whose opening quote has been read. -/
def readString (cs : List Char) : Except Fault (String × List Char) := readChars (cs.length + 1) [] cs

end Fanout.Json
