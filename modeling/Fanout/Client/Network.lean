import Fanout.Client.Error
import Fanout.Client.Url

/-! Reaching a server over a network. -/
namespace Fanout

/-- Why a connection to a host is not had. -/
inductive ReachError where
  | unreachable
  | refused
  /-- The name of the host is not known. -/
  | unknownHost
  deriving DecidableEq

def ReachError.message : ReachError → String
  | .unreachable => "Network is unreachable (os error 101)"
  | .refused => "Connection refused (os error 111)"
  | .unknownHost => "failed to lookup address information: Temporary failure in name resolution"

/-- Why dialing fails. -/
inductive DialError where
  | notAnAddress (f : UrlFault)
  | noHost
  | emptyHost
  | unknownScheme
  | reach (e : ReachError)
  deriving DecidableEq

def DialError.message : DialError → String
  | .notAnAddress f => "HTTP format error: " ++ f.message
  | .noHost => "URL error: No host name in the URL"
  | .emptyHost => "URL error: URL contains empty host name"
  | .unknownScheme => "URL error: URL scheme not supported"
  | .reach e => "IO error: " ++ e.message

/-- What a network does with an attempt to reach a host and a port. -/
structure Network where
  reach : String → Nat → Except ReachError Unit

namespace Network

/-- Whether a text is a number below 256. -/
def isOctet (s : String) : Bool :=
  !s.isEmpty && s.length ≤ 3 && s.toList.all Json.isDigit &&
    s.toList.foldl (fun n c => n * 10 + Json.digitValue c) 0 < 256

/-- Whether a text is four such numbers with dots between them. -/
def isNumericHost (host : String) : Bool :=
  let parts := host.splitOn "."
  parts.length == 4 && parts.all isOctet

/-- A network without a route to anywhere, and without names but that of the machine itself. -/
def isolated : Network where
  reach host _ :=
    .error (if isNumericHost host || host == "localhost" then .unreachable else .unknownHost)

/-- The host, the port and what is asked for there. -/
def resolve (address : String) : Except DialError (String × Nat × String) := do
  let url ← (Url.parse address).mapError .notAnAddress
  match url.authority with
  | none => .error .noHost
  | some authority =>
    if (Url.hostPort authority).isEmpty then .error .emptyHost
    else match Url.port? authority <|> Url.defaultPort? url.scheme with
      | none => .error .unknownScheme
      | some port => .ok (Url.host authority, port, url.target)

/-- Dials the server that an address names. -/
def dial (n : Network) (address : String) : Except DialError Unit := do
  let (host, port, _) ← resolve address
  (n.reach host port).mapError .reach

/-- The error of a client that cannot connect. -/
def connectError? (n : Network) (address : String) : Option TransportError :=
  match n.dial address with
  | .ok _ => none
  | .error e => some (.connect e.message)

end Network

end Fanout
