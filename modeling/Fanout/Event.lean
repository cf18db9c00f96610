import Fanout.Json.Decoder
import Fanout.Json.Printer
import Fanout.Text.Segments
import Fanout.Time.Timestamp

/-!
Events: what happened, when, with what data, and in which organization and domain. The type of an
event is a dot-separated name.
-/
namespace Fanout

/-- Types that only control frames may have. -/
def reservedTypes : List String := ["ping", "pong", "ack", "error"]

/-- Why an event cannot be made. -/
inductive EventError where
  | emptyType
  | wildcard (type : String)
  | emptySegment (type : String)
  | reserved (type : String)
  | payloadNotObject
  deriving DecidableEq

def EventError.message : EventError → String
  | .emptyType => "event type must not be empty"
  | .wildcard t =>
    "event type '" ++ t ++ "' contains a wildcard; wildcards are only valid in filters"
  | .emptySegment t => "event type '" ++ t ++ "' has an empty segment"
  | .reserved t => "event type '" ++ t ++ "' is reserved for control frames"
  | .payloadNotObject => "event payload must be a JSON object"

/-- The first rule for event types that `t` breaks. -/
def checkEventType (t : String) : Except EventError Unit :=
  if t.toList.isEmpty then .error .emptyType
  else if t.toList.contains '*' then .error (.wildcard t)
  else if Text.hasEmptySegment t.toList then .error (.emptySegment t)
  else if reservedTypes.contains t then .error (.reserved t)
  else .ok ()

structure Event where
  type : String
  timestamp : Time.Timestamp
  payload : Json.Object
  organization : Option String := none
  domain : Option String := none

namespace Event

/-- Makes an event at the instant `now`. No payload is an empty one. -/
def make (now : Time.Timestamp) (type : String) (payload : Json.Value)
    (organization domain : Option String := none) : Except EventError Event := do
  checkEventType type
  match payload with
  | .obj members => .ok ⟨type, now, members, organization, domain⟩
  | .null => .ok ⟨type, now, [], organization, domain⟩
  | _ => .error .payloadNotObject

/-- The last part of the type. -/
def action (e : Event) : String := String.ofList (Text.lastSegment e.type.toList)

/-- The organization and the domain, where there are any. -/
def scopeMembers (organization domain : Option String) : List (String × Json.Value) :=
  (organization.map fun o => ("organization_id", .str o)).toList ++
    (domain.map fun d => ("domain_id", .str d)).toList

def members (e : Event) : List (String × Json.Value) :=
  [("type", .str e.type), ("timestamp", .str e.timestamp.render), ("payload", .obj e.payload)] ++
    scopeMembers e.organization e.domain

/-- The text form of an event. -/
def encode (e : Event) : String := Json.renderMembers e.members

/-- A timestamp in the text form of an event. -/
def timestampDecoder : Json.Decoder Time.Timestamp :=
  .parsed "an RFC 3339 formatted date and time string" fun s =>
    (Time.Timestamp.parse s).mapError fun e => .broken e.message

/-- An event from its text form. Its type may break the rules for types. -/
def shape : Json.Shape Event where
  name := "Event"
  fields :=
    [.require "type" .string fun t e => { e with type := t },
      .require "timestamp" timestampDecoder fun t e => { e with timestamp := t },
      .require "payload" .object fun p e => { e with payload := p },
      .default "organization_id" (.optional .string) fun o e => { e with organization := o },
      .default "domain_id" (.optional .string) fun d e => { e with domain := d }]
  blank := ⟨"", ⟨⟨1970, 1, 1⟩, 0, 0⟩, [], none, none⟩

def decode (text : String) : Except Json.Error Event := shape.decoder.decode text

end Event

end Fanout
