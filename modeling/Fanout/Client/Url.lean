import Fanout.Json.Scalar

/-! Addresses of servers: which texts are one, and the host and port they name. -/
namespace Fanout

/-- What is wrong with a text that should be an address. -/
inductive UrlFault where
  | empty
  | tooLong
  | schemeTooLong
  | badCharacter
  | badAuthority
  | badFormat
  deriving DecidableEq

def UrlFault.message : UrlFault → String
  | .empty => "empty string"
  | .tooLong => "uri too long"
  | .schemeTooLong => "scheme too long"
  | .badCharacter => "invalid uri character"
  | .badAuthority => "invalid authority"
  | .badFormat => "invalid format"

structure Url where
  scheme : Option String
  /-- Host and port, after the name of a user if there is one. -/
  authority : Option String
  /-- The path and the query. -/
  target : String
  deriving DecidableEq

namespace Url

def isAlphanumeric (c : Char) : Bool :=
  Json.isDigit c || ('a' ≤ c && c ≤ 'z') || ('A' ≤ c && c ≤ 'Z')

def isSchemeChar (c : Char) : Bool := isAlphanumeric c || ['+', '-', '.'].contains c

/-- Characters that end an authority. -/
def isDelimiter (c : Char) : Bool := ['/', '?', '#'].contains c

def isAuthorityChar (c : Char) : Bool :=
  isAlphanumeric c || "!$&'()*+,-.:;=@[]_~".toList.contains c

/-- The longest text that is read. -/
def maxLength : Nat := 65534

def maxSchemeLength : Nat := 64

/-- What goes before a colon and two slashes, and what follows them. -/
def splitScheme (cs : List Char) : Except UrlFault (Option (List Char) × List Char) :=
  let scheme := cs.takeWhile isSchemeChar
  match cs.dropWhile isSchemeChar with
  | ':' :: '/' :: '/' :: rest =>
    if maxSchemeLength < scheme.length then .error .schemeTooLong else .ok (some scheme, rest)
  | _ => .ok (none, cs)

/-- What has been seen of an authority. -/
structure AuthorityScan where
  /-- Colons that may stand before a port. -/
  colons : Nat := 0
  opened : Bool := false
  closed : Bool := false
  percent : Bool := false
  /-- Whether the last character was an at sign. -/
  atEnd : Bool := false

namespace AuthorityScan

/-- The most colons in a row of groups. -/
def maxColons : Nat := 8

/-- Reads one character of an authority. What goes before an at sign or stands between brackets has
colons of its own. -/
def next (s : AuthorityScan) (c : Char) : Except UrlFault AuthorityScan :=
  let s := { s with atEnd := c == '@' }
  match c with
  | ':' => if maxColons ≤ s.colons then .error .badAuthority else .ok { s with colons := s.colons + 1 }
  | '[' => if s.percent || s.opened then .error .badAuthority else .ok { s with opened := true }
  | ']' =>
    if !s.opened || s.closed then .error .badAuthority
    else .ok { s with closed := true, colons := 0, percent := false }
  | '@' => .ok { s with colons := 0, percent := false }
  | '%' => .ok { s with percent := true }
  | c => if isAuthorityChar c then .ok s else .error .badCharacter

def finish (s : AuthorityScan) : Except UrlFault Unit :=
  if s.opened != s.closed || 1 < s.colons || s.atEnd || s.percent then .error .badAuthority else .ok ()

end AuthorityScan

/-- Splits off an authority, which goes up to the first delimiter. -/
def splitAuthority (cs : List Char) : Except UrlFault (List Char × List Char) := do
  let authority := cs.takeWhile (!isDelimiter ·)
  (← authority.foldlM AuthorityScan.next {}).finish
  .ok (authority, cs.dropWhile (!isDelimiter ·))

/-- Characters of a path: ASCII without blanks, marks and a few others, and all beyond ASCII. -/
def isPathChar (c : Char) : Bool :=
  0x21 ≤ c.toNat && !(['#', '<', '>', '?', '\x60'].contains c)

/-- Characters of a query. -/
def isQueryChar (c : Char) : Bool :=
  0x21 ≤ c.toNat && !(['\x22', '#', '<', '>'].contains c)

/-- Reads the path and the query, up to a fragment. -/
def readTarget (cs : List Char) : Except UrlFault String :=
  let path := cs.takeWhile isPathChar
  match cs.dropWhile isPathChar with
  | [] | '#' :: _ => .ok (String.ofList path)
  | '?' :: rest =>
    let query := rest.takeWhile isQueryChar
    match rest.dropWhile isQueryChar with
    | [] | '#' :: _ => .ok (String.ofList (path ++ '?' :: query))
    | _ => .error .badCharacter
  | _ => .error .badCharacter

/-- An address without a scheme is an authority alone. -/
def ofAuthority (cs : List Char) : Except UrlFault Url := do
  let (authority, rest) ← splitAuthority cs
  if rest.isEmpty then .ok ⟨none, some (String.ofList authority), ""⟩ else .error .badFormat

def parse (s : String) : Except UrlFault Url :=
  if maxLength < s.utf8ByteSize then .error .tooLong
  else match s.toList with
    | [] => .error .empty
    | ['*'] => .ok ⟨none, none, "*"⟩
    | '/' :: _ => do .ok ⟨none, none, ← readTarget s.toList⟩
    | [c] => if isDelimiter c then .error .badCharacter else ofAuthority [c]
    | cs => do
      match ← splitScheme cs with
      | (none, cs) => ofAuthority cs
      | (some scheme, cs) =>
        let (authority, rest) ← splitAuthority cs
        if authority.isEmpty then .error .badFormat
        else .ok ⟨some (String.ofList scheme), some (String.ofList authority), ← readTarget rest⟩

/-- Host and port, without the name of a user. -/
def hostPort (authority : String) : List Char :=
  (authority.toList.reverse.takeWhile (· != '@')).reverse

/-- The host, without brackets. -/
def host (authority : String) : String :=
  match hostPort authority with
  | '[' :: rest => String.ofList (rest.takeWhile (· != ']'))
  | cs => String.ofList (cs.takeWhile (· != ':'))

/-- The number after the last colon, if it is a port. -/
def port? (authority : String) : Option Nat :=
  let cs := (hostPort authority).reverse
  let digits := (cs.takeWhile (· != ':')).reverse
  let n := digits.foldl (fun n c => n * 10 + Json.digitValue c) 0
  if cs.contains ':' && !digits.isEmpty && digits.all Json.isDigit && n ≤ 65535 then some n else none

/-- The port that a scheme stands for. -/
def defaultPort? : Option String → Option Nat
  | some "wss" => some 443
  | some "ws" => some 80
  | _ => none

end Url

end Fanout
