import Fanout.Event
import Fanout.Proofs.Json.Record
import Fanout.Proofs.Timestamp

/-!
Events and their text. Main statement: an event is read back from its text, whatever its type, its
scopes and its payload.
-/
namespace Fanout

open Json

namespace Event

/-- An event that its text determines: an instant of the calendar in a year of four digits, a payload
with keys in order and integers of 64 bits alone, and less nesting than the reader goes into. -/
structure Determined (e : Event) : Prop where
  proper : e.timestamp.Proper
  year : 0 ≤ e.timestamp.date.year ∧ e.timestamp.date.year ≤ 9999
  ordered : (Value.obj e.payload).Ordered
  whole : (Value.obj e.payload).Whole
  depth_lt : (Value.obj e.members).depth < depthLimit

theorem Determined.readable {e : Event} (h : e.Determined) :
    (Value.obj e.payload).Readable (depthLimit - 1) := by
  refine ⟨h.ordered, h.whole, ?_⟩
  have hdepth := h.depth_lt
  rw [Value.depth] at hdepth
  have hpayload : (Value.obj e.payload).depth ≤ Value.membersDepth e.members :=
    Value.membersDepth_le_iff.mp (Nat.le_refl _) ("payload", .obj e.payload) (by simp [members])
  omega

theorem ofText_timestampDecoder {t : Time.Timestamp} (h : t.Proper)
    (hyear : 0 ≤ t.date.year ∧ t.date.year ≤ 9999) (depth : Nat) (rest : List Char) :
    timestampDecoder.ofText depth ((Value.str t.render).chars ++ rest) = .ok (t, rest) := by
  refine Decoder.ofText_parsed ?_ rest
  rw [Time.Timestamp.parse_render h hyear]
  rfl

section Members

variable {depth : Nat}

theorem reads_type (t : String) :
    shape.Reads depth ("type", .str t) fun e => { e with type := t } :=
  Shape.reads_of_field? (fun t (e : Event) => { e with type := t }) rfl (Decoder.ofText_string t)

theorem reads_timestamp {t : Time.Timestamp} (h : t.Proper)
    (hyear : 0 ≤ t.date.year ∧ t.date.year ≤ 9999) :
    shape.Reads depth ("timestamp", .str t.render) fun e => { e with timestamp := t } :=
  Shape.reads_of_field? (fun t (e : Event) => { e with timestamp := t }) rfl
    (ofText_timestampDecoder h hyear depth)

theorem reads_payload {p : Object} (h : (Value.obj p).Readable depth) :
    shape.Reads depth ("payload", .obj p) fun e => { e with payload := p } :=
  Shape.reads_of_field? (fun p (e : Event) => { e with payload := p }) rfl (Decoder.ofText_object h)

theorem reads_organization (o : String) :
    shape.Reads depth ("organization_id", .str o) fun e => { e with organization := some o } :=
  Shape.reads_of_field? (fun o (e : Event) => { e with organization := o }) rfl
    (Decoder.ofText_optional_string o)

theorem reads_domain (d : String) :
    shape.Reads depth ("domain_id", .str d) fun e => { e with domain := some d } :=
  Shape.reads_of_field? (fun d (e : Event) => { e with domain := d }) rfl
    (Decoder.ofText_optional_string d)

/-- A scope that is left out changes nothing. -/
theorem reads_scopeMembers (organization domain : Option String) :
    List.Forall₂ (shape.Reads depth) (scopeMembers organization domain)
      ((organization.map fun o e => { e with organization := some o }).toList ++
        (domain.map fun d e => { e with domain := some d }).toList) := by
  cases organization <;> cases domain <;> simp [scopeMembers, reads_organization, reads_domain]

end Members

theorem nodup_members (e : Event) : (e.members.map Prod.fst).Nodup := by
  obtain ⟨type, timestamp, payload, organization, domain⟩ := e
  cases organization <;> cases domain <;> simp [members, scopeMembers]

theorem missing?_members (e : Event) : shape.missing? (e.members.map Prod.fst).reverse = none := by
  obtain ⟨type, timestamp, payload, organization, domain⟩ := e
  cases organization <;> cases domain <;> rfl

/-- The text of an event is read as that event. -/
theorem decode_encode {e : Event} (h : e.Determined) : decode e.encode = .ok e := by
  have hmembers : List.Forall₂ (shape.Reads (depthLimit - 1)) e.members _ :=
    .cons (reads_type e.type) (.cons (reads_timestamp h.proper h.year)
      (.cons (reads_payload h.readable) (reads_scopeMembers e.organization e.domain)))
  rw [decode, encode, Shape.decode_renderMembers hmembers e.nodup_members e.missing?_members]
  obtain ⟨type, timestamp, payload, organization, domain⟩ := e
  cases organization <;> cases domain <;> rfl

/-- Half way through a leap second, with escapes, both ends of the integers and a scope. -/
theorem decode_encode_leapSecond :
    let payload : Object :=
      [("a\n\x01", .arr [.num (.int (-9223372036854775808)), .num (.int 18446744073709551615),
          .obj [("\"é", .null)]]),
        ("b", .str "\\\t")]
    let e : Event := ⟨"", ⟨⟨2016, 12, 31⟩, 86399, 1500000000⟩, payload, none, some "d\"1"⟩
    e.Determined ∧ decode e.encode = .ok e := by
  intro payload e
  have hdetermined : e.Determined := by
    refine ⟨⟨by decide, by decide, by decide, by decide⟩, by decide, ?_, ?_, by decide +kernel⟩
    · simp +decide only [e, payload, Value.Ordered, Value.MembersOrdered, Value.AllOrdered,
        List.map_cons, List.map_nil, and_self]
    · simp +decide [e, payload, Value.Whole, Value.MembersWhole, Value.AllWhole]
  exact ⟨hdetermined, decode_encode hdetermined⟩

end Event

end Fanout
