import Fanout.Json.Scalar

/-!
Reading of JSON values. Arrays and objects nest less than 128 deep, and of two members under one key
the later stays.
-/
namespace Fanout.Json

/-- Brackets that may be open at a time, plus one. -/
def depthLimit : Nat := 128

/-- The depth left inside a bracket that stands at the head of `cs`. -/
def enter (depth : Nat) (cs : List Char) : Except Fault Nat :=
  if depth ≤ 1 then stopOn .recursionLimit cs else .ok (depth - 1)

/-- Reads the colon after a key. -/
def readColon (cs : List Char) : Except Fault (List Char) :=
  match skipSpace cs with
  | ':' :: r => .ok r
  | [] => stopOn .eofObject []
  | cs => stopOn .expectedColon cs

/-- Whether an array goes on: the text at its next item, or after its closing bracket. -/
inductive NextItem where
  | item (cs : List Char)
  | done (rest : List Char)

/-- Looks for the next item of an array. -/
def nextItem (first : Bool) (cs : List Char) : Except Fault NextItem :=
  match skipSpace cs with
  | [] => stopOn .eofList []
  | ']' :: r => .ok (.done r)
  | cs =>
    if first then .ok (.item cs)
    else match cs with
      | ',' :: r =>
        match skipSpace r with
        | [] => stopOn .eofValue []
        | ']' :: r' => stopOn .trailingComma (']' :: r')
        | r => .ok (.item r)
      | cs => stopOn .expectedListEnd cs

/-- Looks for the next key of an object. The text of an item starts after the key's quote. -/
def nextKey (first : Bool) (cs : List Char) : Except Fault NextItem :=
  match skipSpace cs with
  | [] => stopOn .eofObject []
  | '\x7d' :: r => .ok (.done r)
  | cs =>
    if first then
      match cs with
      | '"' :: r => .ok (.item r)
      | cs => stopOn .keyNotString cs
    else match cs with
      | ',' :: r =>
        match skipSpace r with
        | '"' :: r => .ok (.item r)
        | '\x7d' :: r => stopOn .trailingComma ('\x7d' :: r)
        | [] => stopOn .eofValue []
        | r => stopOn .keyNotString r
      | cs => stopOn .expectedObjectEnd cs

mutual

/-- Reads a value. Each step takes one of `fuel`. -/
def readValue : (fuel depth : Nat) → List Char → Except Fault (Value × List Char)
  | 0, _, cs => stopAt .eofValue cs
  | fuel + 1, depth, cs =>
    match skipSpace cs with
    | [] => stopOn .eofValue []
    | 'n' :: r => do .ok (.null, ← readIdent ['u', 'l', 'l'] r)
    | 't' :: r => do .ok (.bool true, ← readIdent ['r', 'u', 'e'] r)
    | 'f' :: r => do .ok (.bool false, ← readIdent ['a', 'l', 's', 'e'] r)
    | '-' :: r => do
      let (n, rest) ← readNumber true r
      .ok (.num n, rest)
    | '"' :: r => do
      let (s, rest) ← readString r
      .ok (.str s, rest)
    | '[' :: r => do
      let inner ← enter depth ('[' :: r)
      let (items, rest) ← readItems fuel inner true [] r
      .ok (.arr items, rest)
    | '\x7b' :: r => do
      let inner ← enter depth ('\x7b' :: r)
      let (members, rest) ← readMembers fuel inner true [] r
      .ok (.obj members, rest)
    | c :: r =>
      if isDigit c then do
        let (n, rest) ← readNumber false (c :: r)
        .ok (.num n, rest)
      else stopOn .expectedValue (c :: r)

/-- Reads the items of an array up to and with its closing bracket. -/
def readItems : (fuel depth : Nat) → (first : Bool) → (reversed : List Value) → List Char →
    Except Fault (List Value × List Char)
  | 0, _, _, _, cs => stopAt .eofList cs
  | fuel + 1, depth, first, acc, cs => do
    match ← nextItem first cs with
    | .done rest => .ok (acc.reverse, rest)
    | .item cs =>
      let (v, rest) ← readValue fuel depth cs
      readItems fuel depth false (v :: acc) rest

/-- Reads the members of an object up to and with its closing brace. -/
def readMembers : (fuel depth : Nat) → (first : Bool) → (members : Object) → List Char →
    Except Fault (Object × List Char)
  | 0, _, _, _, cs => stopAt .eofObject cs
  | fuel + 1, depth, first, acc, cs => do
    match ← nextKey first cs with
    | .done rest => .ok (acc, rest)
    | .item cs =>
      let (key, rest) ← readString cs
      let rest ← readColon rest
      let (v, rest) ← readValue fuel depth rest
      readMembers fuel depth false (Object.insert acc key v) rest

end

/-- Enough steps for any text of this length. -/
def fuelFor (cs : List Char) : Nat := 2 * cs.length + 2

/-- Only white space may be left. -/
def readEnd (cs : List Char) : Except Fault Unit :=
  match skipSpace cs with
  | [] => .ok ()
  | cs => stopOn .trailingCharacters cs

/-- The value that a text holds. -/
def Value.ofChars (cs : List Char) : Except Fault Value := do
  let (v, rest) ← readValue (fuelFor cs) depthLimit cs
  readEnd rest
  .ok v

/-- The value that a text holds. -/
def Value.parse (text : String) : Except Error Value :=
  (Value.ofChars text.toList).mapError (Fault.toError text.toList)

end Fanout.Json
