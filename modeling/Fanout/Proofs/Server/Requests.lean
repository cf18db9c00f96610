import Fanout.Proofs.Frame
import Fanout.Proofs.Server.Changes
import Fanout.Server.Reply

/-!
Requests are granted or refused as a whole. Main statement: a refusal changes nothing, a grant changes
one filter of one connection, and a request that comes again changes nothing more.
-/
namespace Fanout

namespace Registry

variable {r r' : Registry} {id : ConnectionId} {f : Filter} {now now' : Time.Timestamp}

/-- Registries that come of an empty one while calls and shutdowns take their steps in any order. What
publishers and the loop make of the bus, and writers of a connection, is left open. -/
inductive Attained (config : RegistryConfig) (capacity : Nat) : Registry → Prop
  | new : Attained config capacity (.new config capacity)
  | aside {r : Registry} (h : Attained config capacity r) (op : Operation) (ha : op.isAside)
      (hf : op.Fresh r) : Attained config capacity (op.perform r)
  | call {r : Registry} (h : Attained config capacity r) (c : Call)
      (taken : ConnectionId → Bool) : Attained config capacity (c.advance r taken).2
  | bus {r : Registry} (h : Attained config capacity r) (bus : Bus ConnectionId) :
      Attained config capacity { r with bus }
  | connection {r : Registry} (h : Attained config capacity r) (id : ConnectionId)
      (g : Connection → Connection) (hg : ∀ c, (g c).owned = c.owned) :
      Attained config capacity (r.update id g)
  | shutdown {r r' : Registry} (h : Attained config capacity r) (stage stage' : ShutdownStage)
      (tasksEnded : Bool) (hs : stage.step r tasksEnded = some (stage', r')) :
      Attained config capacity r'
  | giveUp {r : Registry} (h : Attained config capacity r) (stage : ShutdownStage) :
      Attained config capacity (stage.abandon r)

def Distinct (r : Registry) : Prop := ∀ id, (Keyed.keys (r.ownedBy id)).Nodup

namespace Distinct

theorem update (h : r.Distinct) {g : Connection → Connection}
    (hg : ∀ c, r.connection? id = some c → (Keyed.keys (g c).owned).Nodup) :
    (r.update id g).Distinct := by
  intro j
  by_cases hj : j = id
  · subst hj
    cases hc : r.connection? j with
    | none =>
      have hnone : (r.update j g).ownedBy j = [] := by simp [ownedBy, connection?_update, hc]
      rw [hnone]
      exact List.nodup_nil
    | some c =>
      rw [ownedBy_update_self g hc]
      exact hg c hc
  · rw [ownedBy_update_of_ne g hj]
    exact h j

theorem change (h : r.Distinct) (hc : Change r r') : r'.Distinct := by
  cases hc with
  | bus bus => exact h
  | within id g hg =>
    refine h.update fun c hc => ?_
    rw [hg c hc, ← ownedBy_of_connection? hc]
    exact h id
  | adopt id f sub =>
    refine h.update fun c hc => Keyed.nodup_keys_put ?_
    rw [← ownedBy_of_connection? hc]
    exact h id
  | disown id f =>
    obtain hd | ⟨c, sub, -, -, hd⟩ := disown_cases r id f
    · rw [hd]
      exact h
    · rw [hd]
      refine h.update fun c hc => Keyed.nodup_keys_erase ?_
      rw [← ownedBy_of_connection? hc]
      exact h id
  | disownAll id =>
    unfold Registry.disownAll
    split
    · exact h
    · exact h.update fun c hc => List.nodup_nil
  | unregister id =>
    unfold Registry.unregister
    split_ifs <;> exact h

theorem changes (h : r.Distinct) (hc : Changes r r') : r'.Distinct := by
  induction hc with
  | refl => exact h
  | tail _ hs ih => exact ih.change hs

theorem of_attained {config : RegistryConfig} {capacity : Nat}
    (h : Attained config capacity r) : r.Distinct := by
  induction h with
  | new => exact fun _ => List.nodup_nil
  | aside _ op ha hf ih =>
    intro id
    rw [(Aside.perform ha hf).owned]
    exact ih id
  | @call r _ c taken ih => exact ih.changes (c.changes r taken)
  | @bus r _ bus ih => exact ih.change (.bus r bus)
  | @connection r _ id g hg ih => exact ih.change (.within r id g fun c _ => hg c)
  | shutdown _ stage stage' tasksEnded hs ih => exact ih.changes (ShutdownStage.changes_step hs)
  | @giveUp r _ stage ih => exact ih.changes (stage.changes_abandon r)

end Distinct

/-- Connections own the same in both, apart from one filter of one of them. -/
structure AgreeApart (r r' : Registry) (id : ConnectionId) (f : Filter) : Prop where
  filters : ∀ g, g ≠ f → Keyed.get? g (r'.ownedBy id) = Keyed.get? g (r.ownedBy id)
  connections : ∀ j, j ≠ id → r'.ownedBy j = r.ownedBy j

theorem AgreeApart.refl (r : Registry) (id : ConnectionId) (f : Filter) : AgreeApart r r id f :=
  ⟨fun _ _ => rfl, fun _ _ => rfl⟩

theorem AgreeApart.update {g : Connection → Connection}
    (hg : ∀ c, r.connection? id = some c →
      ∀ k, k ≠ f → Keyed.get? k (g c).owned = Keyed.get? k c.owned) :
    AgreeApart r (r.update id g) id f := by
  refine ⟨fun k hk => ?_, fun j hj => ownedBy_update_of_ne g hj⟩
  cases hc : r.connection? id with
  | none => simp [ownedBy, connection?_update, hc]
  | some c =>
    rw [ownedBy_update_self g hc, ownedBy_of_connection? hc]
    exact hg c hc k hk

theorem AgreeApart.subscribe {o : SubscribeOutcome} (hs : r.subscribe now id f = .ok (o, r')) :
    AgreeApart r r' id f := by
  unfold Registry.subscribe at hs
  split_ifs at hs
  obtain ⟨-, -, -, -, -, -, rfl⟩ | ⟨c, sub, bus, -, -, -, -, -, -, -, rfl⟩ := subscribeOn_cases hs
  · exact .refl _ id f
  · have hput : AgreeApart ({ r with bus } : Registry) (({ r with bus } : Registry).update id
        fun c => { c with owned := Keyed.put f sub c.owned }) id f :=
      .update fun c _ k hk => Keyed.get?_put_of_ne hk
    exact ⟨hput.filters, hput.connections⟩

theorem AgreeApart.unsubscribe {b : Bool} (hu : r.unsubscribe id f = .ok (b, r')) :
    AgreeApart r r' id f := by
  unfold Registry.unsubscribe at hu
  split_ifs at hu
  obtain hd | ⟨c, sub, -, -, hd⟩ := disown_cases r id f
  · rw [hd] at hu
    obtain ⟨-, rfl⟩ := Prod.mk.inj (Except.ok.inj hu)
    exact .refl r id f
  · rw [hd] at hu
    obtain ⟨-, rfl⟩ := Prod.mk.inj (Except.ok.inj hu)
    have herase : AgreeApart r (r.update id fun c => { c with owned := Keyed.erase f c.owned }) id f :=
      .update fun c _ k hk => Keyed.get?_erase_of_ne hk
    exact ⟨herase.filters, herase.connections⟩

theorem carryOut_cases {a : SubscriptionAction} (hc : r.carryOut now id f a = .ok r') :
    (∃ o, a = .subscribe ∧ r.subscribe now id f = .ok (o, r')) ∨
    ∃ b, a = .unsubscribe ∧ r.unsubscribe id f = .ok (b, r') := by
  cases a with
  | subscribe =>
    unfold carryOut at hc
    cases hs : r.subscribe now id f with
    | error e => simp [hs, Except.map] at hc
    | ok p =>
      rw [hs] at hc
      obtain rfl := Except.ok.inj hc
      exact .inl ⟨p.1, rfl, rfl⟩
  | unsubscribe =>
    unfold carryOut at hc
    cases hu : r.unsubscribe id f with
    | error e => simp [hu, Except.map] at hc
    | ok p =>
      rw [hu] at hc
      obtain rfl := Except.ok.inj hc
      exact .inr ⟨p.1, rfl, rfl⟩

structure Granted (r : Registry) (id : ConnectionId) (f : Filter) (a : SubscriptionAction) :
    Prop where
  live : r.isLive id = true
  has : match a with
    | .subscribe => ∃ c sub, r.connection? id = some c ∧ c.cancelled = false ∧
        c.subscriptionFor f = some sub
    | .unsubscribe => f ∉ Keyed.keys (r.ownedBy id)

namespace Granted

variable {a : SubscriptionAction}

theorem mem_keys_iff (h : r.Granted id f a) :
    f ∈ Keyed.keys (r.ownedBy id) ↔ a = .subscribe := by
  cases a with
  | subscribe =>
    obtain ⟨c, sub, hc, -, hf⟩ := h.has
    rw [ownedBy_of_connection? hc]
    exact iff_of_true (Keyed.mem_keys_iff.mpr ⟨sub, hf⟩) rfl
  | unsubscribe => exact iff_of_false h.has (by simp)

theorem carryOut (h : r.Granted id f a) (now : Time.Timestamp) :
    r.carryOut now id f a = .ok r := by
  cases a with
  | subscribe =>
    obtain ⟨c, sub, hc, hopen, hf⟩ := h.has
    simp [Registry.carryOut, Registry.subscribe, subscribeOn, h.live, hc, Connection.isClosed, hopen, hf,
      Except.map]
  | unsubscribe =>
    have hnone : (r.disown id f).1 = none := by
      rw [disown_fst]
      exact Keyed.get?_eq_none_iff.mpr h.has
    obtain hd | ⟨c, sub, -, -, hd⟩ := disown_cases r id f
    · simp [Registry.carryOut, Registry.unsubscribe, h.live, hd, Except.map]
    · rw [hd] at hnone
      cases hnone

theorem of_subscribe {o : SubscribeOutcome} (hs : r.subscribe now id f = .ok (o, r')) :
    r'.Granted id f .subscribe := by
  unfold Registry.subscribe at hs
  split_ifs at hs with hlive
  obtain ⟨c, sub, -, hc, hopen, hf, rfl⟩ | ⟨c, sub, bus, -, hc, hopen, -, -, -, -, rfl⟩ :=
    subscribeOn_cases hs
  · exact ⟨hlive, c, sub, hc, hopen, hf⟩
  · refine ⟨hlive, { c with owned := Keyed.put f sub c.owned }, sub, ?_, hopen, Keyed.get?_put_self⟩
    have hc' : ({ r with bus } : Registry).connection? id = some c := hc
    rw [connection?_update, if_pos rfl, hc']
    rfl

theorem of_unsubscribe (h : r.Distinct) {b : Bool} (hu : r.unsubscribe id f = .ok (b, r')) :
    r'.Granted id f .unsubscribe := by
  unfold Registry.unsubscribe at hu
  split_ifs at hu with hlive
  obtain hd | ⟨c, sub, hc, -, hd⟩ := disown_cases r id f
  · have hnone := disown_fst r id f
    rw [hd] at hnone hu
    obtain ⟨-, rfl⟩ := Prod.mk.inj (Except.ok.inj hu)
    exact ⟨hlive, Keyed.get?_eq_none_iff.mp hnone.symm⟩
  · rw [hd] at hu
    obtain ⟨-, rfl⟩ := Prod.mk.inj (Except.ok.inj hu)
    have hnodup : (Keyed.keys c.owned).Nodup := by
      rw [← ownedBy_of_connection? hc]
      exact h id
    have hgone : f ∉ Keyed.keys
        ((r.update id fun c => { c with owned := Keyed.erase f c.owned }).ownedBy id) := by
      rw [ownedBy_update_self _ hc]
      exact Keyed.not_mem_keys_erase hnodup
    exact ⟨hlive, hgone⟩

theorem of_carryOut (h : r.Distinct) (hc : r.carryOut now id f a = .ok r') :
    r'.Granted id f a := by
  obtain ⟨o, rfl, hs⟩ | ⟨b, rfl, hu⟩ := carryOut_cases hc
  · exact of_subscribe hs
  · exact of_unsubscribe h hu

end Granted

theorem AgreeApart.carryOut {a : SubscriptionAction} (hc : r.carryOut now id f a = .ok r') :
    AgreeApart r r' id f := by
  obtain ⟨o, -, hs⟩ | ⟨b, -, hu⟩ := carryOut_cases hc
  · exact .subscribe hs
  · exact .unsubscribe hu

/-- Whether a filter can be subscribed to does not depend on the time. -/
theorem bus_subscribe_error {b : Bus ConnectionId} {e : BusError}
    (he : b.subscribe now f id = .error e) : b.subscribe now' f id = .error e := by
  unfold Bus.subscribe at he ⊢
  cases hcheck : f.check with
  | error e' => simpa [hcheck] using he
  | ok u =>
    simp only [hcheck] at he ⊢
    split_ifs at he ⊢
    exact he

theorem subscribeOn_error {e : RegistryError} (he : r.subscribeOn now id f = .error e) :
    r.subscribeOn now' id f = .error e := by
  unfold subscribeOn at he ⊢
  cases hc : r.connection? id with
  | none => simpa [hc] using he
  | some c =>
    simp only [hc] at he ⊢
    cases hf : c.subscriptionFor f with
    | some sub =>
      simp only [hf] at he ⊢
      split_ifs at he ⊢ with hclosed
      exact he
    | none =>
      simp only [hf] at he ⊢
      split_ifs at he ⊢
      · exact he
      · exact he
      · exact he
      · cases hb : r.bus.subscribe now f id with
        | ok p => simp [hb] at he
        | error e' =>
          rw [bus_subscribe_error hb]
          simpa [hb] using he

theorem carryOut_error {a : SubscriptionAction} {e : RegistryError}
    (he : r.carryOut now id f a = .error e) : r.carryOut now' id f a = .error e := by
  cases a with
  | unsubscribe => exact he
  | subscribe =>
    unfold carryOut Registry.subscribe at he ⊢
    split_ifs at he ⊢
    · cases hs : r.subscribeOn now id f with
      | ok p => simp [hs, Except.map] at he
      | error e' =>
        rw [subscribeOn_error hs]
        simpa [hs, Except.map] using he
    · exact he

/-- What a reply tells of the registry before and after it: an error or an answer to a ping, that
nothing has changed, and an acknowledgement, that one filter of the connection is as asked for. -/
def Explains (r : Registry) (id : ConnectionId) (text : String) (reply : Reply) : Prop :=
  match reply.frame with
  | .error _ _ => reply.registry = r
  | .pong n => ClientFrame.parse text = .ok (.ping n) ∧ reply.registry = r
  | .ack action spec => ClientFrame.parse text = .ok (.subscription action spec) ∧
      ∃ f, Filter.ofSpec spec = .ok f ∧ AgreeApart r reply.registry id f ∧
        (f ∈ Keyed.keys (reply.registry.ownedBy id) ↔ action = .subscribe)
  | .event _ => False

theorem answerRequest_atomic (h : r.Distinct) (action : SubscriptionAction) (spec : FilterSpec)
    {text : String} (ht : ClientFrame.parse text = .ok (.subscription action spec)) :
    r.Explains id text (r.answerRequest now id action spec) ∧
      (r.answerRequest now id action spec).registry.answerRequest now' id action spec =
        r.answerRequest now id action spec := by
  cases hf : Filter.ofSpec spec with
  | error e => simp [answerRequest, hf, refuse, Explains]
  | ok f =>
    cases hc : r.carryOut now id f action with
    | error e =>
      have hc' : r.carryOut now' id f action = .error e := carryOut_error hc
      simp [answerRequest, hf, hc, hc', refuse, Explains]
    | ok r' =>
      -- What was granted is there, so the second request finds nothing to do.
      have hgranted : r'.Granted id f action := .of_carryOut h hc
      have hagain : r'.carryOut now' id f action = .ok r' := hgranted.carryOut now'
      have hreply : r.answerRequest now id action spec = ⟨.ack action spec, r', []⟩ := by
        simp [answerRequest, hf, hc]
      rw [hreply]
      refine ⟨⟨ht, f, hf, .carryOut hc, hgranted.mem_keys_iff⟩, ?_⟩
      simp [answerRequest, hf, hagain]

/-- A reply tells what has become of the registry, and the same text once more gets the same reply and
changes nothing. -/
theorem answerText_atomic {config : RegistryConfig} {capacity : Nat}
    (h : Attained config capacity r) (now now' : Time.Timestamp) (id : ConnectionId)
    (text : String) :
    r.Explains id text (r.answerText now id text) ∧
      (r.answerText now id text).registry.answerText now' id text = r.answerText now id text := by
  cases ht : ClientFrame.parse text with
  | error e => simp [answerText, ht, refuse, Explains]
  | ok frame =>
    cases frame with
    | ping n => simp [answerText, ht, Explains]
    | subscription action spec =>
      have hanswer : ∀ (s : Registry) (t : Time.Timestamp),
          s.answerText t id text = s.answerRequest t id action spec := by
        intro s t
        simp only [answerText, ht]
      rw [hanswer, hanswer]
      exact answerRequest_atomic (.of_attained h) action spec ht

/-- A connection beside another one asks for a filter, and then again a second later. -/
theorem answerText_atomic_subscribe :
    let now : Time.Timestamp := ⟨⟨2026, 1, 1⟩, 0, 0⟩
    let later : Time.Timestamp := ⟨⟨2026, 1, 1⟩, 1, 0⟩
    let r := (Operation.register ⟨"b"⟩ none 0).perform
      ((Operation.register ⟨"a"⟩ none 0).perform (.new {} 4))
    let spec : FilterSpec := ⟨some "order.*", some "acme", none⟩
    let text := (ClientFrame.subscription .subscribe spec).encode
    Attained {} 4 r ∧ (r.answerText now ⟨"a"⟩ text).frame = .ack .subscribe spec ∧
      Keyed.keys ((r.answerText now ⟨"a"⟩ text).registry.ownedBy ⟨"a"⟩) =
        [⟨.below "order", some "acme", none⟩] ∧
      r.Explains ⟨"a"⟩ text (r.answerText now ⟨"a"⟩ text) ∧
      (r.answerText now ⟨"a"⟩ text).registry.answerText later ⟨"a"⟩ text =
        r.answerText now ⟨"a"⟩ text := by
  intro now later r spec text
  have hr : Attained {} 4 r := .aside (.aside .new (.register ⟨"a"⟩ none 0) rfl rfl)
    (.register ⟨"b"⟩ none 0) rfl (by rw [Operation.Fresh]; decide +kernel)
  have hreply : r.answerText now ⟨"a"⟩ text = r.answerRequest now ⟨"a"⟩ .subscribe spec := by
    simp only [answerText, text, ClientFrame.parse_subscription]
  have hframe : (r.answerRequest now ⟨"a"⟩ .subscribe spec).frame = .ack .subscribe spec := by
    rfl
  have hkeys : Keyed.keys ((r.answerRequest now ⟨"a"⟩ .subscribe spec).registry.ownedBy ⟨"a"⟩) =
      [⟨.below "order", some "acme", none⟩] := by
    decide +kernel
  refine ⟨hr, ?_, ?_, answerText_atomic hr now later ⟨"a"⟩ text⟩
  · rw [hreply]
    exact hframe
  · rw [hreply]
    exact hkeys

end Registry

end Fanout
