import Fanout.Json.Value

/-!
JSON text without spaces. Inside a string the quote, the backslash and the control characters are
escaped and everything else stands as it is.
-/
namespace Fanout.Json

/-- The digit of a number below sixteen. -/
def hexDigit (n : Nat) : Char := Nat.digitChar n

/-- One character of a string. -/
def escapeChar (c : Char) : List Char :=
  if c = '"' then ['\\', '"']
  else if c = '\\' then ['\\', '\\']
  else if c.toNat < 0x20 then
    if c = '\x08' then ['\\', 'b']
    else if c = '\x0c' then ['\\', 'f']
    else if c = '\n' then ['\\', 'n']
    else if c = '\r' then ['\\', 'r']
    else if c = '\t' then ['\\', 't']
    else ['\\', 'u', '0', '0', hexDigit (c.toNat / 16), hexDigit (c.toNat % 16)]
  else [c]

def stringChars (s : String) : List Char := '"' :: s.toList.flatMap escapeChar ++ ['"']

mutual

def Value.chars : Value → List Char
  | .null => ['n', 'u', 'l', 'l']
  | .bool true => ['t', 'r', 'u', 'e']
  | .bool false => ['f', 'a', 'l', 's', 'e']
  | .num n => n.digits
  | .str s => stringChars s
  | .arr items => '[' :: itemsChars items
  | .obj members => '\x7b' :: membersChars members

/-- The items of an array and its closing bracket. -/
def itemsChars : List Value → List Char
  | [] => [']']
  | v :: vs => v.chars ++ moreItemsChars vs

def moreItemsChars : List Value → List Char
  | [] => [']']
  | v :: vs => ',' :: v.chars ++ moreItemsChars vs

/-- The members of an object and its closing brace. -/
def membersChars : List (String × Value) → List Char
  | [] => ['\x7d']
  | (k, v) :: ms => stringChars k ++ ':' :: v.chars ++ moreMembersChars ms

def moreMembersChars : List (String × Value) → List Char
  | [] => ['\x7d']
  | (k, v) :: ms => ',' :: stringChars k ++ ':' :: v.chars ++ moreMembersChars ms

end

/-- The text of a value. -/
def Value.render (v : Value) : String := String.ofList v.chars

/-- The text of an object whose members stand in the order given, which need not be key order. -/
def renderMembers (members : List (String × Value)) : String := (Value.obj members).render

end Fanout.Json
