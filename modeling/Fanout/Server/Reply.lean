import Fanout.Server.Registry

/-! The server's reply to a frame from a client. Each frame gets one reply, and an error never ends
the connection. -/
namespace Fanout

/-- A reply, the registry after it, and what is logged. -/
structure Reply where
  frame : ServerFrame
  registry : Registry
  records : List LogRecord := []

namespace Registry

def refuse (r : Registry) (code : ErrorCode) (message : String) (record : LogRecord) : Reply :=
  ⟨.error code.name message, r, [record]⟩

/-- Does what a request asks for. -/
def carryOut (r : Registry) (now : Time.Timestamp) (id : ConnectionId) (f : Filter) :
    SubscriptionAction → Except RegistryError Registry
  | .subscribe => (r.subscribe now id f).map Prod.snd
  | .unsubscribe => (r.unsubscribe id f).map Prod.snd

/-- The reply to a request about a filter. -/
def answerRequest (r : Registry) (now : Time.Timestamp) (id : ConnectionId)
    (action : SubscriptionAction) (spec : FilterSpec) : Reply :=
  match Filter.ofSpec spec with
  | .error e =>
    r.refuse .invalidFilter e.message (.warn "rejected subscription filter" [("error", e.message)])
  | .ok f =>
    match r.carryOut now id f action with
    | .ok r => ⟨.ack action spec, r, []⟩
    | .error e =>
      r.refuse e.code e.message
        (.warn "subscription request rejected" [("error", e.message), ("action", action.name)])

/-- The reply to a text. -/
def answerText (r : Registry) (now : Time.Timestamp) (id : ConnectionId) (text : String) : Reply :=
  match ClientFrame.parse text with
  | .error e =>
    r.refuse .invalidFrame e.message (.warn "invalid frame received" [("error", e.message)])
  | .ok (.ping n) => ⟨.pong n, r, []⟩
  | .ok (.subscription action spec) => r.answerRequest now id action spec

end Registry

end Fanout
