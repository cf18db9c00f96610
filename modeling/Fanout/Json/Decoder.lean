import Fanout.Json.Skip

/-!
Reading of typed data. Data comes from a value already in memory, whose members stand by key, or
straight from text, where members are taken in the order written and an error has a place.
-/
namespace Fanout.Json

structure Decoder (α : Type) where
  ofValue : Value → Except Mismatch α
  /-- Reads from the head of a text, with this depth left. -/
  ofText : (depth : Nat) → List Char → Except Fault (α × List Char)

/-- A mismatch with everything before `cs` read. -/
def mismatchAt (m : Mismatch) (cs : List Char) : Except Fault α :=
  .error ⟨.mismatch m, byteCount cs⟩

/-- Rejects the value at the head of `cs`, which is not blank. A literal, number or string is read
first, a bracket is not. -/
def rejectValue (expected : String) (cs : List Char) : Except Fault α :=
  match cs with
  | [] => stopOn .eofValue []
  | 'n' :: r => do mismatchAt (.wrongType .null expected) (← readIdent ['u', 'l', 'l'] r)
  | 't' :: r => do mismatchAt (.wrongType (.bool true) expected) (← readIdent ['r', 'u', 'e'] r)
  | 'f' :: r => do
    mismatchAt (.wrongType (.bool false) expected) (← readIdent ['a', 'l', 's', 'e'] r)
  | '-' :: r => do
    let (n, rest) ← readNumber true r
    mismatchAt (.wrongType (.num n) expected) rest
  | '"' :: r => do
    let (s, rest) ← readString r
    mismatchAt (.wrongType (.str s) expected) rest
  | '[' :: _ => mismatchAt (.wrongType .sequence expected) cs
  | '\x7b' :: _ => mismatchAt (.wrongType .map expected) cs
  | c :: _ =>
    if isDigit c then do
      let (n, rest) ← readNumber false cs
      mismatchAt (.wrongType (.num n) expected) rest
    else stopOn .expectedValue cs

namespace Decoder

/-- A string that `parse` turns into a value of the type, described by `expected`. -/
def parsed (expected : String) (parse : String → Except Mismatch α) : Decoder α where
  ofValue
    | .str s => parse s
    | v => .error (.wrongType v.found expected)
  ofText _ cs :=
    match skipSpace cs with
    | '"' :: r => do
      let (s, rest) ← readString r
      match parse s with
      | .ok a => .ok (a, rest)
      | .error m => mismatchAt m rest
    | cs => rejectValue expected cs

def string : Decoder String := parsed "a string" .ok

/-- A number that `take` turns into a value of the type. -/
def number (expected : String) (take : Number → Except Mismatch α) : Decoder α where
  ofValue
    | .num n => take n
    | v => .error (.wrongType v.found expected)
  ofText _ cs :=
    let finish (r : Number × List Char) : Except Fault (α × List Char) :=
      match take r.1 with
      | .ok a => .ok (a, r.2)
      | .error m => mismatchAt m r.2
    match skipSpace cs with
    | '-' :: r => do finish (← readNumber true r)
    | c :: r => if isDigit c then do finish (← readNumber false (c :: r))
      else rejectValue expected (c :: r)
    | [] => rejectValue expected []

/-- An integer from zero to `max`. -/
def natural (expected : String) (max : Nat) : Decoder Nat :=
  number expected fun
    | .int n =>
      if 0 ≤ n ∧ n ≤ max then .ok n.toNat else .error (.wrongValue (.num (.int n)) expected)
    | .float x => .error (.wrongType (.num (.float x)) expected)

/-- Any number, as a double precision one. -/
def float : Decoder Float :=
  number "f64" fun
    | .int n =>
      .ok (if 0 ≤ n then n.toNat.toUInt64.toFloat else -n.natAbs.toUInt64.toFloat)
    | .float x => .ok x

/-- Nothing is written `null`. -/
def optional (d : Decoder α) : Decoder (Option α) where
  ofValue
    | .null => .ok none
    | v => (d.ofValue v).map some
  ofText depth cs :=
    match skipSpace cs with
    | 'n' :: r => do .ok (none, ← readIdent ['u', 'l', 'l'] r)
    | cs => do
      let (a, rest) ← d.ofText depth cs
      .ok (some a, rest)

/-- An object with members of any kind. -/
def object : Decoder Object where
  ofValue
    | .obj members => .ok members
    | v => .error (.wrongType v.found "a map")
  ofText depth cs :=
    match skipSpace cs with
    | '\x7b' :: r => do
      let inner ← enter depth ('\x7b' :: r)
      readMembers (fuelFor r) inner true [] r
    | cs => rejectValue "a map" cs

/-- The variant with this name. -/
def variant (variants : List (String × α)) (name : String) : Except Mismatch α :=
  match variants.lookup name with
  | some a => .ok a
  | none => .error (.unknownVariant name (variants.map Prod.fst))

/-- One of a list of names, or an object that holds nothing but `null` under the name. -/
def enumeration (variants : List (String × α)) : Decoder α where
  ofValue
    | .str s => variant variants s
    | .obj [(name, v)] => do
      let a ← variant variants name
      match v with
      | .null => .ok a
      | v => .error (.wrongType v.found "unit")
    | .obj _ => .error (.wrongValue .map "map with a single key")
    | v => .error (.wrongType v.found "string or map")
  ofText depth cs :=
    match skipSpace cs with
    | [] => stopOn .eofValue []
    | '"' :: r => (parsed "variant identifier" (variant variants)).ofText depth ('"' :: r)
    | '\x7b' :: r => do
      let inner ← enter depth ('\x7b' :: r)
      let (a, rest) ← (parsed "variant identifier" (variant variants)).ofText inner r
      let rest ← readColon rest
      let rest ← match skipSpace rest with
        | 'n' :: r => readIdent ['u', 'l', 'l'] r
        | cs => rejectValue "unit" cs
      match skipSpace rest with
      | '\x7d' :: r => .ok (a, r)
      | [] => stopAt .eofObject []
      | cs => stopAt .expectedValue cs
    | cs => stopOn .expectedValue cs

end Decoder

/-- One field of a record of type `σ`: what it is called and how its value changes the record. -/
structure Field (σ : Type) where
  name : String
  /-- A record without this field is refused. -/
  required : Bool
  decoder : Decoder (σ → σ)

/-- A field that keeps its default when it is absent. -/
def Field.default (name : String) (d : Decoder α) (set : α → σ → σ) : Field σ where
  name
  required := false
  decoder :=
    { ofValue := fun v => (d.ofValue v).map set
      ofText := fun depth cs => do
        let (a, rest) ← d.ofText depth cs
        .ok (set a, rest) }

/-- A field that has to be there. -/
def Field.require (name : String) (d : Decoder α) (set : α → σ → σ) : Field σ :=
  { Field.default name d set with required := true }

/-- A record with named fields. An array is also read, by the order of the fields. -/
structure Shape (σ : Type) where
  name : String
  fields : List (Field σ)
  /-- The record before any field is read. -/
  blank : σ

namespace Shape

def expected (s : Shape σ) : String := "struct " ++ s.name

def field? (s : Shape σ) (name : String) : Option (Field σ) :=
  s.fields.find? fun f => f.name == name

/-- The array form with too few items. -/
def tooShort (s : Shape σ) (length : Nat) : Mismatch :=
  .wrongLength length (s.expected ++ " with " ++ String.ofList (natDigits s.fields.length) ++
    (if s.fields.length = 1 then " element" else " elements"))

/-- The first required field that was not seen. -/
def missing? (s : Shape σ) (seen : List String) : Option String :=
  (s.fields.find? fun f => f.required && !seen.contains f.name).map Field.name

def ofMembers (s : Shape σ) : Object → (seen : List String) → σ → Except Mismatch σ
  | [], seen, r =>
    match s.missing? seen with
    | some name => .error (.missingField name)
    | none => .ok r
  | (key, v) :: rest, seen, r =>
    match s.field? key with
    | none => ofMembers s rest seen r
    | some f => do
      let set ← f.decoder.ofValue v
      ofMembers s rest (f.name :: seen) (set r)

/-- Items by position. `length` is that of the whole array. -/
def ofItems (s : Shape σ) (length : Nat) : (fields : List (Field σ)) → List Value → σ →
    Except Mismatch σ
  | [], [], r => .ok r
  | [], _ :: _, _ => .error (.wrongLength length "fewer elements in array")
  | f :: fs, [], r => if f.required then .error (s.tooShort length) else ofItems s length fs [] r
  | f :: fs, v :: vs, r => do
    let set ← f.decoder.ofValue v
    ofItems s length fs vs (set r)

/-- The text after the closing brace that an error about a whole object points to. It is not looked
for beyond the white space. -/
def closeObject (cs : List Char) : List Char :=
  match skipSpace cs with
  | '\x7d' :: r => r
  | cs => cs

/-- Reads members in the order written. -/
def readFields (s : Shape σ) : (fuel depth : Nat) → (first : Bool) → (seen : List String) → σ →
    List Char → Except Fault (σ × List Char)
  | 0, _, _, _, _, cs => stopAt .eofObject cs
  | fuel + 1, depth, first, seen, r, cs => do
    match ← nextKey first cs with
    | .done rest =>
      match s.missing? seen with
      | some name => mismatchAt (.missingField name) rest
      | none => .ok (r, rest)
    | .item cs =>
      let (key, rest) ← readString cs
      match s.field? key with
      | none =>
        let rest ← readColon rest
        let rest ← skipValue (fuelFor rest) [] rest
        readFields s fuel depth false seen r rest
      | some f =>
        if seen.contains f.name then mismatchAt (.duplicateField f.name) (closeObject rest)
        else
          let rest ← readColon rest
          let (set, rest) ← f.decoder.ofText depth rest
          readFields s fuel depth false (f.name :: seen) (set r) rest

/-- Reads the closing bracket of an array whose items have all been taken. -/
def readListEnd (cs : List Char) : Except Fault (List Char) :=
  match skipSpace cs with
  | [] => stopOn .eofList []
  | ']' :: r => .ok r
  | ',' :: r =>
    match skipSpace r with
    | ']' :: r' => stopOn .trailingComma (']' :: r')
    | r => stopOn .trailingCharacters r
  | cs => stopOn .trailingCharacters cs

/-- Reads items by position; `taken` of them have been read. -/
def readPositions (s : Shape σ) (depth : Nat) : (fields : List (Field σ)) → (taken : Nat) → σ →
    List Char → Except Fault (σ × List Char)
  | [], _, r, cs => do .ok (r, ← readListEnd cs)
  | f :: fs, taken, r, cs => do
    match ← nextItem (taken == 0) cs with
    | .done rest =>
      if f.required then mismatchAt (s.tooShort taken) rest
      else readPositions s depth fs taken r cs
    | .item cs =>
      let (set, rest) ← f.decoder.ofText depth cs
      readPositions s depth fs (taken + 1) (set r) rest

def decoder (s : Shape σ) : Decoder σ where
  ofValue
    | .obj members => s.ofMembers members [] s.blank
    | .arr items => s.ofItems items.length s.fields items s.blank
    | v => .error (.wrongType v.found s.expected)
  ofText depth cs :=
    match skipSpace cs with
    | '\x7b' :: r => do
      let inner ← enter depth ('\x7b' :: r)
      s.readFields (fuelFor r) inner true [] s.blank r
    | '[' :: r => do
      let inner ← enter depth ('[' :: r)
      s.readPositions inner s.fields 0 s.blank r
    | cs => rejectValue s.expected cs

end Shape

namespace Decoder

def decodeValue (d : Decoder α) (v : Value) : Except Error α :=
  (d.ofValue v).mapError Mismatch.toError

/-- Decodes a text and puts the result to `check`, whose objection has no place in the text. -/
def decodeChecked (d : Decoder α) (check : α → Except Mismatch β) (text : String) :
    Except Error β := do
  let cs := text.toList
  let (a, rest) ← (d.ofText depthLimit cs).mapError (Fault.toError cs)
  let b ← (check a).mapError Mismatch.toError
  (readEnd rest).mapError (Fault.toError cs)
  .ok b

def decode (d : Decoder α) (text : String) : Except Error α := d.decodeChecked .ok text

end Decoder

end Fanout.Json
