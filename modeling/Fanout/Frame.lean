import Fanout.Filter

/-! Frames: the messages between a client and the server, one JSON object each. -/
namespace Fanout

/-- Codes of the errors that the server reports. -/
inductive ErrorCode where
  | invalidFilter
  | invalidFrame
  | subscriptionLimit
  | tooManyConnections
  | unavailable
  deriving DecidableEq

def ErrorCode.name : ErrorCode → String
  | .invalidFilter => "INVALID_FILTER"
  | .invalidFrame => "INVALID_FRAME"
  | .subscriptionLimit => "SUBSCRIPTION_LIMIT"
  | .tooManyConnections => "TOO_MANY_CONNECTIONS"
  | .unavailable => "UNAVAILABLE"

/-- Why a text is not a frame. -/
inductive FrameError where
  | json (e : Json.Error)
  | unrecognised (reason : String)

def FrameError.message : FrameError → String
  | .json e => "invalid JSON: " ++ e.message
  | .unrecognised reason => "unrecognised frame: " ++ reason

inductive SubscriptionAction where
  | subscribe
  | unsubscribe
  deriving DecidableEq

namespace SubscriptionAction

def name : SubscriptionAction → String
  | .subscribe => "subscribe"
  | .unsubscribe => "unsubscribe"

def decoder : Json.Decoder SubscriptionAction :=
  .enumeration [("subscribe", .subscribe), ("unsubscribe", .unsubscribe)]

end SubscriptionAction

/-- The object a frame consists of. -/
def frameObject (text : String) : Except FrameError Json.Object := do
  match ← (Json.Value.parse text).mapError .json with
  | .obj members => .ok members
  | _ => .error (.unrecognised "frame is not a JSON object")

def frameValue (d : Json.Decoder α) (v : Json.Value) : Except FrameError α :=
  (d.decodeValue v).mapError .json

/-- An identifier counts as zero unless it is a 64 bit integer without sign. -/
def frameId (o : Json.Object) : UInt64 :=
  (((Json.Object.get? o "id").bind Json.Value.asUnsigned?).getD 0).toUInt64

/-- What a client sends. -/
inductive ClientFrame where
  | subscription (action : SubscriptionAction) (filter : FilterSpec)
  | ping (id : UInt64)
  deriving DecidableEq

namespace ClientFrame

/-- A request about a filter. -/
structure Request where
  action : SubscriptionAction
  filter : FilterSpec

def requestShape : Json.Shape Request where
  name := "ActionFrame"
  fields :=
    [.require "action" SubscriptionAction.decoder fun a r => { r with action := a },
      .require "filter" FilterSpec.shape.decoder fun f r => { r with filter := f }]
  blank := ⟨.subscribe, {}⟩

/-- Reads a frame. One with an action is a request, whatever its type. -/
def parse (text : String) : Except FrameError ClientFrame := do
  let o ← frameObject text
  if (Json.Object.get? o "action").isSome then
    let r ← frameValue requestShape.decoder (.obj o)
    .ok (.subscription r.action r.filter)
  else match (Json.Object.get? o "type").bind Json.Value.asString? with
    | some "ping" => .ok (.ping (frameId o))
    | some other => .error (.unrecognised ("unexpected type '" ++ other ++ "'"))
    | none => .error (.unrecognised "missing 'action' or 'type'")

def toValue : ClientFrame → Json.Value
  | .subscription a f => .obj [("action", .str a.name), ("filter", f.toValue)]
  | .ping id => .obj [("id", .nat id.toNat), ("type", .str "ping")]

def encode (f : ClientFrame) : String := f.toValue.render

end ClientFrame

/-- An event as it is sent. Its timestamp is a text that nobody checks. -/
structure EventFrame where
  type : String
  timestamp : String
  data : Json.Object
  organization : Option String := none
  domain : Option String := none

namespace EventFrame

def ofEvent (e : Event) : EventFrame :=
  ⟨e.type, e.timestamp.renderMillis, e.payload, e.organization, e.domain⟩

def members (f : EventFrame) : List (String × Json.Value) :=
  [("type", .str f.type), ("timestamp", .str f.timestamp), ("data", .obj f.data)] ++
    Event.scopeMembers f.organization f.domain

def encode (f : EventFrame) : String := Json.renderMembers f.members

def shape : Json.Shape EventFrame where
  name := "EventFrame"
  fields :=
    [.require "type" .string fun t f => { f with type := t },
      .require "timestamp" .string fun t f => { f with timestamp := t },
      .default "data" .object fun d f => { f with data := d },
      .default "organization_id" (.optional .string) fun o f => { f with organization := o },
      .default "domain_id" (.optional .string) fun d f => { f with domain := d }]
  blank := ⟨"", "", [], none, none⟩

end EventFrame

/-- What the server sends. -/
inductive ServerFrame where
  | event (e : EventFrame)
  | pong (id : UInt64)
  | ack (action : SubscriptionAction) (filter : FilterSpec)
  | error (code message : String)

namespace ServerFrame

def parse (text : String) : Except FrameError ServerFrame := do
  let o ← frameObject text
  let string (key : String) := ((Json.Object.get? o key).bind Json.Value.asString?).getD ""
  match (Json.Object.get? o "type").bind Json.Value.asString? with
  | none => .error (.unrecognised "missing 'type'")
  | some "pong" => .ok (.pong (frameId o))
  | some "ack" =>
    let action ←
      frameValue SubscriptionAction.decoder ((Json.Object.get? o "action").getD .null)
    let filter ← frameValue FilterSpec.shape.decoder ((Json.Object.get? o "filter").getD (.obj []))
    .ok (.ack action filter)
  | some "error" => .ok (.error (string "code") (string "message"))
  | some "ping" => .error (.unrecognised "ping is a client frame")
  | some _ =>
    let e ← frameValue EventFrame.shape.decoder (.obj o)
    .ok (.event e)

def encode : ServerFrame → String
  | .event e => e.encode
  | .pong id => (Json.Value.obj [("id", .nat id.toNat), ("type", .str "pong")]).render
  | .ack a f =>
    (Json.Value.obj [("action", .str a.name), ("filter", f.toValue), ("type", .str "ack")]).render
  | .error code message =>
    (Json.Value.obj
      [("code", .str code), ("message", .str message), ("type", .str "error")]).render

end ServerFrame

/-- The text in which an event is sent. -/
def Event.frame (e : Event) : String := (ServerFrame.event (.ofEvent e)).encode

end Fanout
