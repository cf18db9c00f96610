import Fanout.Json.Number

/-! What goes wrong between a client and the server. -/
namespace Fanout

inductive TransportError where
  | connect (reason : String)
  | connectTimeout
  | send (reason : String)
  | receive (reason : String)
  deriving DecidableEq

def TransportError.message : TransportError → String
  | .connect reason => "connect failed: " ++ reason
  | .connectTimeout => "connect timed out"
  | .send reason => "send failed: " ++ reason
  | .receive reason => "receive failed: " ++ reason

inductive SessionError where
  | closed
  | exhausted (attempts : Nat)
  deriving DecidableEq

def SessionError.message : SessionError → String
  | .closed => "session is closed"
  | .exhausted n =>
    "gave up reconnecting after " ++ String.ofList (Json.natDigits n) ++ " attempts"

end Fanout
