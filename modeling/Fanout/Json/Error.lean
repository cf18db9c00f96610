import Fanout.Json.Value
import Fanout.Text.Quoted

/-! What can be wrong with a JSON text, or with a value where a certain type is wanted. -/
namespace Fanout.Json

/-- A text that is not JSON. -/
inductive Defect where
  | eofValue | eofList | eofObject | eofString
  | expectedValue | expectedIdent | expectedColon | expectedListEnd | expectedObjectEnd
  | keyNotString | trailingComma | trailingCharacters
  | invalidEscape | invalidNumber | numberOutOfRange | controlCharacter
  | loneSurrogate | endOfHexEscape | recursionLimit
  deriving DecidableEq

def Defect.message : Defect → String
  | .eofValue => "EOF while parsing a value"
  | .eofList => "EOF while parsing a list"
  | .eofObject => "EOF while parsing an object"
  | .eofString => "EOF while parsing a string"
  | .expectedValue => "expected value"
  | .expectedIdent => "expected ident"
  | .expectedColon => "expected `:`"
  | .expectedListEnd => "expected `,` or `]`"
  | .expectedObjectEnd => "expected `,` or `\x7d`"
  | .keyNotString => "key must be a string"
  | .trailingComma => "trailing comma"
  | .trailingCharacters => "trailing characters"
  | .invalidEscape => "invalid escape"
  | .invalidNumber => "invalid number"
  | .numberOutOfRange => "number out of range"
  | .controlCharacter => "control character (\\u0000-\\u001F) found while parsing a string"
  | .loneSurrogate => "lone leading surrogate in hex escape"
  | .endOfHexEscape => "unexpected end of hex escape"
  | .recursionLimit => "recursion limit exceeded"

/-- A value as an error shows it. -/
inductive Found where
  | null
  | bool (b : Bool)
  | num (n : Number)
  | str (s : String)
  | sequence
  | map

def Value.found : Value → Found
  | .null => .null
  | .bool b => .bool b
  | .num n => .num n
  | .str s => .str s
  | .arr _ => .sequence
  | .obj _ => .map

def Found.message : Found → String
  | .null => "null"
  | .bool b => if b then "boolean `true`" else "boolean `false`"
  | .num (.int n) => "integer `" ++ String.ofList (intDigits n) ++ "`"
  | .num (.float x) => "floating point `" ++ String.ofList (floatDigits x) ++ "`"
  | .str s => "string " ++ Text.quoted s
  | .sequence => "sequence"
  | .map => "map"

/-- A value that is not of the wanted type. -/
inductive Mismatch where
  | wrongType (found : Found) (expected : String)
  | wrongValue (found : Found) (expected : String)
  | wrongLength (length : Nat) (expected : String)
  | unknownVariant (name : String) (known : List String)
  | missingField (name : String)
  | duplicateField (name : String)
  /-- A rule of the wanted type is broken. -/
  | broken (message : String)

/-- The names of the variants there are. -/
def variantList : List String → String
  | [] => "there are no variants"
  | [a] => "expected `" ++ a ++ "`"
  | [a, b] => "expected `" ++ a ++ "` or `" ++ b ++ "`"
  | known => "expected one of " ++ String.intercalate ", " (known.map fun a => "`" ++ a ++ "`")

def Mismatch.message : Mismatch → String
  | .wrongType found expected => "invalid type: " ++ found.message ++ ", expected " ++ expected
  | .wrongValue found expected => "invalid value: " ++ found.message ++ ", expected " ++ expected
  | .wrongLength n expected =>
    "invalid length " ++ String.ofList (natDigits n) ++ ", expected " ++ expected
  | .unknownVariant name known => "unknown variant `" ++ name ++ "`, " ++ variantList known
  | .missingField name => "missing field `" ++ name ++ "`"
  | .duplicateField name => "duplicate field `" ++ name ++ "`"
  | .broken message => message

inductive Cause where
  | defect (d : Defect)
  | mismatch (m : Mismatch)

def Cause.message : Cause → String
  | .defect d => d.message
  | .mismatch m => m.message

/-- A place in a text: lines count from one, columns count the bytes read of the line. -/
structure Position where
  line : Nat
  column : Nat
  deriving DecidableEq

/-- Bytes that a text takes up. -/
def byteCount (cs : List Char) : Nat := cs.foldr (fun c n => c.utf8Size + n) 0

/-- The place reached `n` bytes further on. A line feed starts a new line. -/
def Position.advance : Position → List Char → (n : Nat) → Position
  | p, _, 0 => p
  | p, [], _ => p
  | p, c :: cs, n =>
    if c = '\n' then advance ⟨p.line + 1, 0⟩ cs (n - 1)
    else if c.utf8Size ≤ n then advance ⟨p.line, p.column + c.utf8Size⟩ cs (n - c.utf8Size)
    else ⟨p.line, p.column + n⟩

/-- The place at which `left` bytes of the text are still unread. -/
def Position.before (text : List Char) (left : Nat) : Position :=
  advance ⟨1, 0⟩ text (byteCount text - left)

/-- Where reading stopped, as the number of bytes left unread, and why. -/
structure Fault where
  cause : Cause
  left : Nat

/-- A failure to read a text or to decode a value. Only texts have places. -/
structure Error where
  cause : Cause
  position : Option Position

def Error.message (e : Error) : String :=
  match e.position with
  | none => e.cause.message
  | some p =>
    e.cause.message ++ " at line " ++ String.ofList (natDigits p.line) ++ " column " ++
      String.ofList (natDigits p.column)

def Fault.toError (text : List Char) (f : Fault) : Error :=
  ⟨f.cause, some (.before text f.left)⟩

def Mismatch.toError (m : Mismatch) : Error := ⟨.mismatch m, none⟩

end Fanout.Json
