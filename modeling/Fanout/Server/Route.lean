import Fanout.Server.Registry

/-! What the server answers over HTTP. -/
namespace Fanout

/-- Status codes in use. -/
inductive HttpStatus where
  | ok
  | badRequest
  | notFound
  | unavailable
  deriving DecidableEq

def HttpStatus.code : HttpStatus → Nat
  | .ok => 200
  | .badRequest => 400
  | .notFound => 404
  | .unavailable => 503

/-- The code and its usual words. -/
def HttpStatus.line (s : HttpStatus) : String :=
  let words := match s with
    | .ok => "OK"
    | .badRequest => "Bad Request"
    | .notFound => "Not Found"
    | .unavailable => "Service Unavailable"
  String.ofList (Json.natDigits s.code) ++ " " ++ words

/-- The bytes of a name or value in a query: a plus is a blank, and two hexadecimal digits after a
percent sign are a byte. -/
def queryBytes : List Char → List UInt8
  | '%' :: a :: b :: rest =>
    match Json.hexValue? a, Json.hexValue? b with
    | some x, some y => (x * 16 + y).toUInt8 :: queryBytes rest
    | _, _ => '%'.toNat.toUInt8 :: queryBytes (a :: b :: rest)
  | '+' :: rest => ' '.toNat.toUInt8 :: queryBytes rest
  | c :: rest => (String.singleton c).toUTF8.toList ++ queryBytes rest
  | [] => []
  termination_by cs => cs.length

/-- A name or value in a query. One that does not spell a text stays as it is written. -/
def queryText (s : String) : String :=
  (String.fromUTF8? ⟨(queryBytes s.toList).toArray⟩).getD s

/-- The names and values of a query, in order. -/
def queryPairs (query : String) : List (String × String) :=
  ((query.splitOn "&").filter (· ≠ "")).map fun pair =>
    match pair.splitOn "=" with
    | name :: rest => (queryText name, queryText ("=".intercalate rest))
    | [] => ("", "")

/-- The path and the query of a request. -/
def splitTarget (target : String) : String × String :=
  match target.splitOn "?" with
  | path :: rest => (path, "?".intercalate rest)
  | [] => ("", "")

/-- What a request asks for. -/
inductive Route where
  | socket (sessions : List String)
  | health
  | metrics
  | unknown
  deriving DecidableEq

def Route.ofTarget (target : String) : Route :=
  let (path, query) := splitTarget target
  if path = "/ws" then
    .socket (((queryPairs query).filter fun p => p.1 = "session").map Prod.snd)
  else if path = "/health" then .health
  else if path = "/metrics" then .metrics
  else .unknown

/-- The state that requests see. -/
structure Lobby where
  shuttingDown : Bool
  /-- Whether there is a page of samples. -/
  hasMetrics : Bool

/-- The answer to a request to open a socket: the session it names, or a status. -/
def Route.upgrade (lobby : Lobby) : Route → Except HttpStatus (Option String)
  | .socket [] => if lobby.shuttingDown then .error .unavailable else .ok none
  | .socket [session] => if lobby.shuttingDown then .error .unavailable else .ok (some session)
  | .socket _ => .error .badRequest
  | .health => .error .ok
  | .metrics => .error (if lobby.hasMetrics then .ok else .notFound)
  | .unknown => .error .notFound

/-- The status of a plain request. A socket cannot be had by one. -/
def Route.status (lobby : Lobby) : Route → HttpStatus
  | .socket _ => .badRequest
  | .health => .ok
  | .metrics => if lobby.hasMetrics then .ok else .notFound
  | .unknown => .notFound

/-- How the server is. -/
structure Health where
  shuttingDown : Bool
  uptimeSecs : Nat
  connections : Nat
  subscriptions : Nat

namespace Health

def check (r : Registry) (uptimeMs : Nat) (shuttingDown : Bool) : Health :=
  ⟨shuttingDown, uptimeMs / 1000, r.connectionCount, r.subscriptionCount⟩

def status (h : Health) : String := if h.shuttingDown then "shutting_down" else "ok"

end Health

end Fanout
