import Fanout.Json.Reader

/-!
Passing over a value nobody asked for. Its brackets and literals have to be right, but it may nest
to any depth, its numbers may be of any size and its escapes may name half of a pair.
-/
namespace Fanout.Json

/-- Passes over an exponent, after its mark. -/
def skipExponent (cs : List Char) : Except Fault (List Char) :=
  let cs := match cs with
    | '+' :: r | '-' :: r => r
    | _ => cs
  match cs with
  | [] => stopAt .invalidNumber []
  | c :: r => if isDigit c then .ok (r.dropWhile isDigit) else stopOn .invalidNumber cs

/-- Passes over a fraction, after its point. -/
def skipFraction (cs : List Char) : Except Fault (List Char) :=
  let rest := cs.dropWhile isDigit
  if (cs.takeWhile isDigit).isEmpty then stopOn .invalidNumber rest
  else match rest with
    | 'e' :: r | 'E' :: r => skipExponent r
    | _ => .ok rest

/-- Passes over a number, after its sign. -/
def skipNumber (cs : List Char) : Except Fault (List Char) :=
  match cs with
  | [] => stopAt .invalidNumber []
  | c :: tail =>
    if !isDigit c then stopOn .invalidNumber cs
    else if c = '0' ∧ (tail.head?.any isDigit) then stopOn .invalidNumber tail
    else match cs.dropWhile isDigit with
      | '.' :: r => skipFraction r
      | 'e' :: r | 'E' :: r => skipExponent r
      | rest => .ok rest

/-- Passes over an escape, after its backslash. -/
def skipEscape (cs : List Char) : Except Fault (List Char) :=
  match cs with
  | [] => stopAt .eofString []
  | 'u' :: r => do
    let (_, rest) ← readHex r
    .ok rest
  | c :: r => if "\"\\/bfnrt".toList.contains c then .ok r else stopOn .invalidEscape cs

/-- Passes over a string, after its opening quote. -/
def skipString : (fuel : Nat) → List Char → Except Fault (List Char)
  | 0, cs => stopAt .eofString cs
  | fuel + 1, cs =>
    match cs with
    | [] => stopAt .eofString []
    | '"' :: r => .ok r
    | '\\' :: r =>
      match skipEscape r with
      | .error f => .error f
      | .ok rest => skipString fuel rest
    | c :: r => if c.toNat < 0x20 then stopAt .controlCharacter cs else skipString fuel r

/-- A bracket that is open. -/
inductive Bracket where
  | list
  | object

def Bracket.missing : Bracket → Defect
  | .list => .eofList
  | .object => .eofObject

def Bracket.unexpected : Bracket → Defect
  | .list => .expectedListEnd
  | .object => .expectedObjectEnd

/-- Whether the character closes the bracket. -/
def Bracket.closedBy : Bracket → Char → Bool
  | .list, c => c == ']'
  | .object, c => c == '\x7d'

/-- Passes over the key of a member and its colon. Items of a list have no key. -/
def skipKey (b : Bracket) (cs : List Char) : Except Fault (List Char) :=
  match b with
  | .list => .ok cs
  | .object =>
    match skipSpace cs with
    | [] => stopOn .eofObject []
    | '"' :: r => do
      let rest ← skipString (r.length + 1) r
      readColon rest
    | cs => stopOn .keyNotString cs

mutual

/-- Passes over a value inside the brackets `opened`, the innermost first, and on to the end of the
outermost. -/
def skipValue : (fuel : Nat) → (opened : List Bracket) → List Char → Except Fault (List Char)
  | 0, _, cs => stopAt .eofValue cs
  | fuel + 1, opened, cs =>
    match skipSpace cs with
    | [] => stopOn .eofValue []
    | 'n' :: r => do skipMore fuel true opened (← readIdent ['u', 'l', 'l'] r)
    | 't' :: r => do skipMore fuel true opened (← readIdent ['r', 'u', 'e'] r)
    | 'f' :: r => do skipMore fuel true opened (← readIdent ['a', 'l', 's', 'e'] r)
    | '-' :: r => do skipMore fuel true opened (← skipNumber r)
    | '"' :: r => do skipMore fuel true opened (← skipString (r.length + 1) r)
    | '[' :: r => skipMore fuel false (.list :: opened) r
    | '\x7b' :: r => skipMore fuel false (.object :: opened) r
    | c :: r =>
      if isDigit c then do skipMore fuel true opened (← skipNumber (c :: r))
      else stopOn .expectedValue (c :: r)

/-- Goes on after a value, where a comma may follow, or after an opening bracket, where none may. -/
def skipMore : (fuel : Nat) → (comma : Bool) → (opened : List Bracket) → List Char →
    Except Fault (List Char)
  | 0, _, _, cs => stopAt .eofValue cs
  | _ + 1, _, [], cs => .ok cs
  | fuel + 1, comma, b :: opened, cs =>
    match skipSpace cs with
    | [] => stopOn b.missing []
    | c :: r =>
      if c = ',' ∧ comma then do skipValue fuel (b :: opened) (← skipKey b r)
      else if b.closedBy c then skipMore fuel true opened r
      else if comma then stopOn b.unexpected (c :: r)
      else do skipValue fuel (b :: opened) (← skipKey b (c :: r))

end

end Fanout.Json
