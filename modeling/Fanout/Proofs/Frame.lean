import Fanout.Frame
import Fanout.Proofs.Json.RoundTrip

/-!
Frames and their texts. Main statements: what either side sends is read back by the other as what it
is, and an event never as a control frame.
-/
namespace Fanout

open Json

theorem frameObject_renderMembers {ms : List (String × Value)}
    (h : ∀ m ∈ ms, m.2.Readable (depthLimit - 1)) :
    frameObject (renderMembers ms) = .ok (Object.ofList ms) := by
  rw [frameObject, parse_renderMembers h]
  rfl

/-- A frame whose members are written in key order. -/
theorem frameObject_render {ms : Object} (ha : Object.Ascending ms)
    (h : ∀ m ∈ ms, m.2.Readable (depthLimit - 1)) :
    frameObject (Value.obj ms).render = .ok ms := by
  rw [← renderMembers, frameObject_renderMembers h, Object.ofList_eq_self ha]

theorem toNat_le_maxUnsigned (id : UInt64) : id.toNat ≤ maxUnsigned := Nat.le_of_lt_succ id.toNat_lt

theorem frameId_nat {o : Object} {id : UInt64} (h : Object.get? o "id" = some (.nat id.toNat)) :
    frameId o = id := by
  have hid := toNat_le_maxUnsigned id
  have hfits : (0 : Int) ≤ id.toNat ∧ (id.toNat : Int) ≤ maxUnsigned := by omega
  simp [frameId, h, Value.nat, Value.asUnsigned?, hfits]

theorem SubscriptionAction.decode_name (a : SubscriptionAction) :
    frameValue SubscriptionAction.decoder (.str a.name) = .ok a := by
  cases a <;> rfl

namespace FilterSpec

theorem mem_members {s : FilterSpec} {m : String × Value} (h : m ∈ s.members) :
    ∃ t, m.2 = .str t := by
  simp only [members, Event.scopeMembers, List.mem_append, Option.mem_toList,
    Option.map_eq_some_iff] at h
  obtain ⟨t, -, rfl⟩ | ⟨t, -, rfl⟩ | ⟨t, -, rfl⟩ := h <;> exact ⟨t, rfl⟩

theorem toValue_readable (s : FilterSpec) (d : Nat) : s.toValue.Readable (d + 2) := by
  refine .obj (Object.ascending_ofList _) fun m hm => ?_
  obtain ⟨t, ht⟩ := mem_members (Object.mem_of_mem_ofList hm)
  rw [ht]
  exact .str t

theorem ofList_members (s : FilterSpec) : Object.ofList s.members =
    (s.domain.map fun d => ("domain_id", Value.str d)).toList ++
      (s.organization.map fun o => ("organization_id", Value.str o)).toList ++
      (s.typePattern.map fun p => ("type_pattern", Value.str p)).toList := by
  obtain ⟨p, o, d⟩ := s
  cases p <;> cases o <;> cases d <;>
    simp +decide only [members, Event.scopeMembers, Object.ofList, Object.insert, Option.map_none,
      Option.map_some, Option.toList_none, Option.toList_some, List.nil_append, List.cons_append,
      List.foldl_nil, List.foldl_cons, ↓reduceIte]

theorem decode_toValue (s : FilterSpec) : frameValue shape.decoder s.toValue = .ok s := by
  rw [toValue, ofList_members]
  obtain ⟨p, o, d⟩ := s
  cases p <;> cases o <;> cases d <;> rfl

end FilterSpec

namespace EventFrame

theorem ofList_members (f : EventFrame) : Object.ofList f.members =
    ("data", .obj f.data) :: ((f.domain.map fun d => ("domain_id", Value.str d)).toList ++
      (f.organization.map fun o => ("organization_id", Value.str o)).toList ++
      [("timestamp", .str f.timestamp), ("type", .str f.type)]) := by
  obtain ⟨t, s, p, o, d⟩ := f
  cases o <;> cases d <;>
    simp +decide only [members, Event.scopeMembers, Object.ofList, Object.insert, Option.map_none,
      Option.map_some, Option.toList_none, Option.toList_some, List.nil_append, List.cons_append,
      List.foldl_nil, List.foldl_cons, ↓reduceIte]

theorem decode_members (f : EventFrame) :
    frameValue shape.decoder (.obj (Object.ofList f.members)) = .ok f := by
  rw [ofList_members]
  obtain ⟨t, s, p, o, d⟩ := f
  cases o <;> cases d <;> rfl

theorem get?_type (f : EventFrame) :
    Object.get? (Object.ofList f.members) "type" = some (.str f.type) := by
  rw [ofList_members]
  obtain ⟨t, s, p, o, d⟩ := f
  cases o <;> cases d <;> rfl

theorem members_readable {f : EventFrame} {d : Nat} (h : (Value.obj f.data).Readable (d + 1)) :
    ∀ m ∈ f.members, m.2.Readable (d + 1) := by
  intro m hm
  simp only [members, Event.scopeMembers, List.mem_append, List.mem_cons, List.not_mem_nil,
    or_false, Option.mem_toList, Option.map_eq_some_iff] at hm
  obtain (rfl | rfl | rfl) | ⟨t, -, rfl⟩ | ⟨t, -, rfl⟩ := hm
  · exact .str _
  · exact .str _
  · exact h
  · exact .str t
  · exact .str t

/-- Data that the text of an event frame determines: keys in order, integers of 64 bits alone, and a
frame that nests less deep than the reader goes. -/
structure Determined (f : EventFrame) : Prop where
  ordered : (Value.obj f.data).Ordered
  whole : (Value.obj f.data).Whole
  depth_lt : (Value.obj f.members).depth < depthLimit

theorem Determined.readable {f : EventFrame} (h : f.Determined) :
    (Value.obj f.data).Readable (depthLimit - 1) := by
  refine ⟨h.ordered, h.whole, ?_⟩
  have hdepth := h.depth_lt
  rw [Value.depth] at hdepth
  have hdata : (Value.obj f.data).depth ≤ Value.membersDepth f.members :=
    Value.membersDepth_le_iff.mp (Nat.le_refl _) ("data", .obj f.data) (by simp [members])
  omega

end EventFrame

/-- No event is made with the type of a control frame. -/
theorem Event.type_of_make {now : Time.Timestamp} {type : String} {payload : Value}
    {organization domain : Option String} {e : Event}
    (h : Event.make now type payload organization domain = .ok e) : e.type ∉ reservedTypes := by
  cases hc : checkEventType type with
  | error x => simp [Event.make, hc, bind, Except.bind] at h
  | ok u =>
    have htype : type ∉ reservedTypes := by
      unfold checkEventType at hc
      split_ifs at hc with h₁ h₂ h₃ h₄
      simpa using h₄
    have he : e.type = type := by
      simp only [Event.make, hc, bind, Except.bind] at h
      cases payload <;> simp only [reduceCtorEq, Except.ok.injEq] at h <;> rw [← h]
    rwa [he]

namespace ServerFrame

theorem parse_event {f : EventFrame} (ht : f.type ∉ reservedTypes) (hd : f.Determined) :
    parse f.encode = .ok (.event f) := by
  have hobject : frameObject f.encode = .ok (Object.ofList f.members) :=
    frameObject_renderMembers (EventFrame.members_readable hd.readable)
  obtain ⟨hping, hpong, hack, herror⟩ :
      f.type ≠ "ping" ∧ f.type ≠ "pong" ∧ f.type ≠ "ack" ∧ f.type ≠ "error" := by
    simpa [reservedTypes] using ht
  simp only [parse, hobject, bind, Except.bind, EventFrame.get?_type, Option.bind_some,
    Value.asString?, EventFrame.decode_members]

theorem parse_pong (id : UInt64) : parse (encode (.pong id)) = .ok (.pong id) := by
  let ms : Object := [("id", .nat id.toNat), ("type", .str "pong")]
  have hobject : frameObject (encode (.pong id)) = .ok ms := by
    refine frameObject_render ?_ ?_
    · simp +decide only [Object.Ascending, List.map_cons, List.map_nil]
    · exact List.forall_mem_cons.mpr
        ⟨.nat (toNat_le_maxUnsigned id), List.forall_mem_singleton.mpr (.str _)⟩
  have htype : Object.get? ms "type" = some (.str "pong") := rfl
  have hid : frameId ms = id := frameId_nat rfl
  simp only [parse, hobject, bind, Except.bind, htype, Option.bind_some, Value.asString?, hid]

theorem parse_ack (a : SubscriptionAction) (f : FilterSpec) :
    parse (encode (.ack a f)) = .ok (.ack a f) := by
  let ms : Object := [("action", .str a.name), ("filter", f.toValue), ("type", .str "ack")]
  have hobject : frameObject (encode (.ack a f)) = .ok ms := by
    refine frameObject_render ?_ ?_
    · simp +decide only [Object.Ascending, List.map_cons, List.map_nil]
    · exact List.forall_mem_cons.mpr ⟨.str _, List.forall_mem_cons.mpr
        ⟨f.toValue_readable _, List.forall_mem_singleton.mpr (.str _)⟩⟩
  have htype : Object.get? ms "type" = some (.str "ack") := rfl
  have haction : Object.get? ms "action" = some (.str a.name) := rfl
  have hfilter : Object.get? ms "filter" = some f.toValue := rfl
  simp only [parse, hobject, bind, Except.bind, htype, haction, hfilter, Option.bind_some,
    Option.getD_some, Value.asString?, SubscriptionAction.decode_name, FilterSpec.decode_toValue]

theorem parse_error (code message : String) :
    parse (encode (.error code message)) = .ok (.error code message) := by
  let ms : Object := [("code", .str code), ("message", .str message), ("type", .str "error")]
  have hobject : frameObject (encode (.error code message)) = .ok ms := by
    refine frameObject_render ?_ ?_
    · simp +decide only [Object.Ascending, List.map_cons, List.map_nil]
    · exact List.forall_mem_cons.mpr ⟨.str _, List.forall_mem_cons.mpr
        ⟨.str _, List.forall_mem_singleton.mpr (.str _)⟩⟩
  have htype : Object.get? ms "type" = some (.str "error") := rfl
  have hcode : Object.get? ms "code" = some (.str code) := rfl
  have hmessage : Object.get? ms "message" = some (.str message) := rfl
  simp only [parse, hobject, bind, Except.bind, htype, hcode, hmessage, Option.bind_some,
    Option.getD_some, Value.asString?]

/-- A frame that a client reads as what it is. All control frames are; an event has to have a type
of its own. -/
def Portable : ServerFrame → Prop
  | .event f => f.type ∉ reservedTypes ∧ f.Determined
  | .pong _ | .ack _ _ | .error _ _ => True

/-- What is sent is read back, and the text of an event that was made is always read as that
event. -/
theorem parse_encode :
    (∀ f : ServerFrame, f.Portable → parse f.encode = .ok f) ∧
    ∀ now type payload organization domain e,
      Event.make now type payload organization domain = .ok e →
      (EventFrame.ofEvent e).Determined →
      parse e.frame = .ok (.event ⟨e.type, e.timestamp.renderMillis, e.payload, e.organization,
        e.domain⟩) := by
  constructor
  · intro f hf
    cases f with
    | event f => exact parse_event hf.1 hf.2
    | pong id => exact parse_pong id
    | ack a f => exact parse_ack a f
    | error code message => exact parse_error code message
  · intro now type payload organization domain e he hd
    exact parse_event (f := .ofEvent e) (Event.type_of_make he) hd

/-- Escapes, both ends of the integers and nested brackets, under a reserved word as a part of the
type. -/
theorem parse_encode_nested :
    let payload : Object :=
      [("a\n\x01", .arr [.num (.int (-9223372036854775808)), .num (.int 18446744073709551615),
          .obj [("\"é", .null)]]),
        ("b", .str "\\\t")]
    let e : Event := ⟨"ping.sent", ⟨⟨2024, 2, 29⟩, 3723, 4000000⟩, payload, some "org", none⟩
    Event.make e.timestamp e.type (.obj payload) (some "org") none = .ok e ∧
      parse e.frame =
        .ok (.event ⟨"ping.sent", e.timestamp.renderMillis, payload, some "org", none⟩) ∧
      parse (encode (.pong 7)) = .ok (.pong 7) := by
  intro payload e
  have hcheck : checkEventType "ping.sent" = .ok () := by decide +kernel
  have hmake : Event.make e.timestamp e.type (.obj payload) (some "org") none = .ok e := by
    simp only [Event.make, e, hcheck, bind, Except.bind]
  have hdetermined : (EventFrame.ofEvent e).Determined := by
    refine ⟨?_, ?_, ?_⟩
    · simp +decide only [e, payload, EventFrame.ofEvent, Value.Ordered, Value.MembersOrdered,
        Value.AllOrdered, List.map_cons, List.map_nil, and_self]
    · simp +decide [e, payload, EventFrame.ofEvent, Value.Whole, Value.MembersWhole, Value.AllWhole]
    · decide +kernel
  exact ⟨hmake, parse_encode.2 _ _ _ _ _ e hmake hdetermined, parse_encode.1 (.pong 7) trivial⟩

end ServerFrame

namespace ClientFrame

theorem decode_request (a : SubscriptionAction) (f : FilterSpec) :
    frameValue requestShape.decoder (.obj [("action", .str a.name), ("filter", f.toValue)]) =
      .ok ⟨a, f⟩ := by
  rw [FilterSpec.toValue, FilterSpec.ofList_members]
  obtain ⟨p, o, d⟩ := f
  cases a <;> cases p <;> cases o <;> cases d <;> rfl

theorem parse_subscription (a : SubscriptionAction) (f : FilterSpec) :
    parse (encode (.subscription a f)) = .ok (.subscription a f) := by
  let ms : Object := [("action", .str a.name), ("filter", f.toValue)]
  have hobject : frameObject (encode (.subscription a f)) = .ok ms := by
    refine frameObject_render ?_ ?_
    · simp +decide only [Object.Ascending, List.map_cons, List.map_nil]
    · exact List.forall_mem_cons.mpr
        ⟨.str _, List.forall_mem_singleton.mpr (f.toValue_readable _)⟩
  have haction : Object.get? ms "action" = some (.str a.name) := rfl
  have hrequest : frameValue requestShape.decoder (.obj ms) = .ok ⟨a, f⟩ := decode_request a f
  simp only [parse, hobject, bind, Except.bind, haction, Option.isSome_some, if_true, hrequest]

theorem parse_ping (id : UInt64) : parse (encode (.ping id)) = .ok (.ping id) := by
  let ms : Object := [("id", .nat id.toNat), ("type", .str "ping")]
  have hobject : frameObject (encode (.ping id)) = .ok ms := by
    refine frameObject_render ?_ ?_
    · simp +decide only [Object.Ascending, List.map_cons, List.map_nil]
    · exact List.forall_mem_cons.mpr
        ⟨.nat (toNat_le_maxUnsigned id), List.forall_mem_singleton.mpr (.str _)⟩
  -- Without an action the type decides.
  have haction : Object.get? ms "action" = none := rfl
  have htype : Object.get? ms "type" = some (.str "ping") := rfl
  have hid : frameId ms = id := frameId_nat rfl
  simp only [parse, hobject, bind, Except.bind, haction, Option.isSome_none, Bool.false_eq_true,
    if_false, htype, Option.bind_some, Value.asString?, hid]

/-- The server reads every frame of a client as the frame that was sent. -/
theorem parse_encode_self (f : ClientFrame) : parse f.encode = .ok f := by
  cases f with
  | subscription a f => exact parse_subscription a f
  | ping id => exact parse_ping id

end ClientFrame

end Fanout
