import Fanout.Server.Route
import Fanout.Socket.Digest

/-! The HTTP messages around a socket. -/
namespace Fanout

/-- The first line of an HTTP message and its headers, their names in small letters. -/
structure HttpHead where
  start : List String
  headers : List (String × String)
  deriving DecidableEq

namespace HttpHead

def lower (s : String) : String := String.ofList (s.toList.map Char.toLower)

/-- Without blanks at either end. -/
def trimmed (s : String) : String :=
  let cut (cs : List Char) := cs.dropWhile fun c => c == ' ' || c == '\t'
  String.ofList (cut (cut s.toList).reverse).reverse

def header? (h : HttpHead) (name : String) : Option String := h.headers.lookup name

/-- Reads the lines before an empty one. -/
def ofText (s : String) : HttpHead :=
  match s.splitOn "\r\n" with
  | first :: lines =>
    ⟨first.splitOn " ", (lines.takeWhile (· ≠ "")).map fun line =>
      match line.splitOn ":" with
      | name :: rest => (lower name, trimmed (":".intercalate rest))
      | [] => ("", "")⟩
  | [] => ⟨[], []⟩

/-- The target of a request to get something. -/
def getTarget? (h : HttpHead) : Option String :=
  match h.start with
  | "GET" :: target :: _ => some target
  | _ => none

/-- Whether a header lists a word, in whatever case. -/
def lists (h : HttpHead) (name word : String) : Bool :=
  (h.header? name).any fun v => ((lower v).splitOn ",").any fun w => trimmed w == word

/-- The key of a request for a socket. -/
def socketKey? (h : HttpHead) : Option String :=
  if h.lists "connection" "upgrade" && h.lists "upgrade" "websocket" then
    h.header? "sec-websocket-key"
  else none

/-- Whether a server agrees to a socket asked for with this key. -/
def agrees (h : HttpHead) (key : String) : Bool :=
  h.start[1]? == some "101" && h.header? "sec-websocket-accept" == some (acceptKey key)

end HttpHead

/-- Splits bytes after the first empty line. -/
def splitHead : List UInt8 → Option (List UInt8 × List UInt8)
  | 13 :: 10 :: 13 :: 10 :: rest => some ([13, 10, 13, 10], rest)
  | b :: rest => (splitHead rest).map fun (head, rest) => (b :: head, rest)
  | [] => none

/-- Lines as they stand in a head. -/
def headText (lines : List String) : String := "\r\n".intercalate (lines ++ ["", ""])

def upgradeRequest (host target key : String) : String :=
  headText ["GET " ++ target ++ " HTTP/1.1", "Host: " ++ host, "Connection: Upgrade",
    "Upgrade: websocket", "Sec-WebSocket-Version: 13", "Sec-WebSocket-Key: " ++ key]

def upgradeResponse (key : String) : String :=
  headText ["HTTP/1.1 101 Switching Protocols", "Connection: upgrade", "Upgrade: websocket",
    "Sec-WebSocket-Accept: " ++ acceptKey key]

def pageResponse (status : HttpStatus) (contentType body : String) : String :=
  headText ["HTTP/1.1 " ++ status.line, "Content-Type: " ++ contentType,
    "Content-Length: " ++ String.ofList (Json.natDigits body.utf8ByteSize), "Connection: close"] ++ body

/-- The health of a server as a page. -/
def Health.page (h : Health) : String :=
  Json.renderMembers [("status", .str h.status), ("uptime_secs", .nat h.uptimeSecs),
    ("connections", .nat h.connections), ("subscriptions", .nat h.subscriptions)]

/-- Samples as a page, one a line. -/
def Metrics.page (m : Metrics) : String :=
  String.join (m.samples.map fun (name, value) =>
    name ++ " " ++ String.ofList (Json.natDigits value) ++ "\n")

end Fanout
