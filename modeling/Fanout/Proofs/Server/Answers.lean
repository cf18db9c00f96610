import Fanout.Proofs.Filter
import Fanout.Proofs.Frame
import Fanout.Proofs.Server.Ownership
import Fanout.Proofs.Wish
import Fanout.Server.Reply

/-!
A connection whose requests are within the limits. The server grants each of them, so that the
connection owns the filters held after its requests.
-/
namespace Fanout.Registry

/-- The replies to texts that come one after the other, each at its time. -/
def answerAll (r : Registry) (id : ConnectionId) :
    List (Time.Timestamp × String) → List ServerFrame × Registry
  | [] => ([], r)
  | (now, text) :: rest =>
    let reply := r.answerText now id text
    let (frames, r) := reply.registry.answerAll id rest
    (reply.frame :: frames, r)

/-- A connection is there, on a bus that takes subscriptions, and owns the filters `fs`. -/
structure Serves (r : Registry) (id : ConnectionId) (fs : List Filter) : Prop where
  live : r.isLive id = true
  unsealed : r.bus.table.closed = false
  owns : ∃ c, r.connection? id = some c ∧ c.cancelled = false ∧ Keyed.keys c.owned = fs

variable {r r' : Registry} {id : ConnectionId} {fs : List Filter} {f : Filter} {q : Wish}

theorem Serves.of_register {session : Option String} {clock : Nat}
    (hb : r.bus.table.closed = false) (h : r.register id session clock = .ok r') :
    r'.Serves id [] ∧ r'.config = r.config := by
  unfold register at h
  split_ifs at h
  obtain rfl := Except.ok.inj h
  refine ⟨⟨?_, hb, _, Keyed.get?_put_self, rfl, rfl⟩, rfl⟩
  simp [isLive, gaugeConnections]

theorem bus_subscribe_of_check {b : Bus ConnectionId} (hb : b.table.closed = false)
    (hf : f.check = .ok ()) (now : Time.Timestamp) (id : ConnectionId) :
    ∃ sub b', b.subscribe now f id = .ok (sub, b') ∧ b'.table.closed = false := by
  refine ⟨⟨b.nextId⟩, Bus.gaugeSubscriptions { b with
    table := b.table.insert f ⟨⟨b.nextId⟩, id, now⟩, nextId := b.nextId + 1 }, ?_, hb⟩
  simp [Bus.subscribe, hf, hb]

/-- A filter that is new gets a subscription. -/
theorem Serves.subscribe (h : r.Serves id fs) (hnew : f ∉ fs) (hcheck : f.check = .ok ())
    (hlen : fs.length < r.config.maxSubscriptions) (hfire : 0 < r.config.maxFirehose)
    (now : Time.Timestamp) :
    ∃ o r', r.subscribe now id f = .ok (o, r') ∧ r'.Serves id (fs ++ [f]) ∧
      r'.config = r.config := by
  obtain ⟨c, hc, hopen, hkeys⟩ := h.owns
  have hnew' : f ∉ Keyed.keys c.owned := hkeys ▸ hnew
  have hnone : c.subscriptionFor f = none := Keyed.get?_eq_none_iff.mpr hnew'
  have hroom : ¬ r.config.maxSubscriptions ≤ c.owned.length := by
    have hl : c.owned.length = fs.length := by rw [← hkeys, Keyed.keys, List.length_map]
    omega
  have hfirehose : ¬ (f.isFirehose && decide (r.config.maxFirehose ≤ c.firehoseCount)) = true := by
    intro hboth
    obtain ⟨hf, hmany⟩ := Bool.and_eq_true_iff.mp hboth
    -- All firehoses are one filter, and this one is new.
    have hzero : c.firehoseCount = 0 := by
      rw [Connection.firehoseCount, List.length_eq_zero_iff, List.filter_eq_nil_iff]
      intro g hg hgf
      have hgf : g = f := (Filter.isFirehose_iff.mp hgf).trans (Filter.isFirehose_iff.mp hf).symm
      exact hnew' (hgf ▸ hg)
    have := of_decide_eq_true hmany
    omega
  obtain ⟨sub, bus, hsub, hbus⟩ := bus_subscribe_of_check h.unsealed hcheck now id
  let g : Connection → Connection := fun c => { c with owned := Keyed.put f sub c.owned }
  refine ⟨.created sub, ({ r with bus } : Registry).update id g, ?_, ⟨h.live, hbus, g c, ?_, hopen,
    ?_⟩, rfl⟩
  · simp only [Registry.subscribe, h.live, if_true, subscribeOn, hc, Connection.isClosed, hopen,
      Bool.false_eq_true, if_false, hnone, hsub]
    rw [if_neg hroom, if_neg hfirehose]
  · rw [connection?_update, if_pos rfl]
    exact congrArg (Option.map g) hc
  · change Keyed.keys (Keyed.put f sub c.owned) = fs ++ [f]
    rw [Keyed.put_of_not_mem hnew', Keyed.keys_append, hkeys]
    rfl

/-- A filter that is there already keeps its subscription. -/
theorem Serves.subscribe_again (h : r.Serves id fs) (hf : f ∈ fs) (now : Time.Timestamp) :
    ∃ o, r.subscribe now id f = .ok (o, r) := by
  obtain ⟨c, hc, hopen, hkeys⟩ := h.owns
  obtain ⟨sub, hsub⟩ := Keyed.mem_keys_iff.mp (hkeys ▸ hf)
  have hexists : c.subscriptionFor f = some sub := hsub
  refine ⟨.existing sub, ?_⟩
  simp [Registry.subscribe, h.live, subscribeOn, hc, Connection.isClosed, hopen, hexists]

theorem Serves.unsubscribe (h : r.Serves id fs) (hfs : fs.Nodup) (f : Filter) :
    ∃ b r', r.unsubscribe id f = .ok (b, r') ∧ r'.Serves id (fs.filter (· ≠ f)) ∧
      r'.config = r.config := by
  obtain ⟨c, hc, hopen, hkeys⟩ := h.owns
  cases hf : c.subscriptionFor f with
  | none =>
    have hd : r.disown id f = (none, r) := by simp [disown, hc, hf]
    have hsame : fs.filter (· ≠ f) = fs := by
      refine List.filter_eq_self.mpr fun g hg => ?_
      have hne : g ≠ f := by
        rintro rfl
        exact Keyed.get?_eq_none_iff.mp hf (hkeys ▸ hg)
      simpa using hne
    refine ⟨false, r, ?_, hsame.symm ▸ h, rfl⟩
    simp [Registry.unsubscribe, h.live, hd]
  | some sub =>
    let g : Connection → Connection := fun c => { c with owned := Keyed.erase f c.owned }
    have hd : r.disown id f = (some sub, r.update id g) := by simp [disown, hc, hf, g]
    refine ⟨true, (r.update id g).unsubscribeBus sub, ?_, ⟨h.live, ?_, g c, ?_, hopen, ?_⟩, rfl⟩
    · simp [Registry.unsubscribe, h.live, hd]
    · change (r.bus.unsubscribe sub).2.table.closed = false
      rw [Bus.unsubscribe_table, Bus.remove_closed]
      exact h.unsealed
    · change (r.update id g).connection? id = some (g c)
      rw [connection?_update, if_pos rfl, hc]
      rfl
    · change Keyed.keys (Keyed.erase f c.owned) = fs.filter (· ≠ f)
      rw [Keyed.erase_eq_filter (hkeys ▸ hfs), ← hkeys, Keyed.keys, Keyed.keys, List.filter_map]
      rfl

theorem Serves.carryOut (h : r.Serves id fs) (hfs : fs.Nodup) (hcheck : q.filter.check = .ok ())
    (hlen : (q.grant fs).length ≤ r.config.maxSubscriptions) (hfire : 0 < r.config.maxFirehose)
    (now : Time.Timestamp) :
    ∃ r', r.carryOut now id q.filter q.action = .ok r' ∧ r'.Serves id (q.grant fs) ∧
      r'.config = r.config := by
  obtain ⟨a, f⟩ := q
  cases a with
  | subscribe =>
    by_cases hf : f ∈ fs
    · obtain ⟨o, ho⟩ := h.subscribe_again hf now
      refine ⟨r, by simp [Registry.carryOut, ho, Except.map], ?_, rfl⟩
      simpa [Wish.grant, hf] using h
    · have hgrant : Wish.grant fs ⟨.subscribe, f⟩ = fs ++ [f] := by simp [Wish.grant, hf]
      rw [hgrant, List.length_append, List.length_singleton] at hlen
      obtain ⟨o, r', hr', hs, hconfig⟩ := h.subscribe hf hcheck hlen hfire now
      exact ⟨r', by simp [Registry.carryOut, hr', Except.map], hgrant ▸ hs, hconfig⟩
  | unsubscribe =>
    obtain ⟨b, r', hr', hs, hconfig⟩ := h.unsubscribe hfs f
    exact ⟨r', by simp [Registry.carryOut, hr', Except.map], hs, hconfig⟩

/-- The server reads a request off its text, grants it and says so. -/
theorem Serves.answerText (h : r.Serves id fs) (hfs : fs.Nodup) (hq : q.filter.Accepted)
    (hlen : (q.grant fs).length ≤ r.config.maxSubscriptions) (hfire : 0 < r.config.maxFirehose)
    (now : Time.Timestamp) :
    ∃ r', r.answerText now id (ClientFrame.subscription q.action q.filter.toSpec).encode =
        ⟨.ack q.action q.filter.toSpec, r', []⟩ ∧
      r'.Serves id (q.grant fs) ∧ r'.config = r.config := by
  obtain ⟨r', hr', hs, hconfig⟩ := h.carryOut hfs hq.check hlen hfire now
  refine ⟨r', ?_, hs, hconfig⟩
  simp only [Registry.answerText, ClientFrame.parse_subscription, answerRequest, hq.ofSpec_toSpec,
    hr']

/-- Requests within the limits are all granted. -/
theorem Serves.answerAll (h : r.Serves id fs) (hfs : fs.Nodup) (hfire : 0 < r.config.maxFirehose)
    {sent : List Wish} (hsent : ∀ q ∈ sent, q.filter.Accepted)
    (hlen : ∀ front, front <+: sent →
      (front.foldl Wish.grant fs).length ≤ r.config.maxSubscriptions)
    {feed : List (Time.Timestamp × String)} (hfeed : feed.map Prod.snd =
      sent.map fun q => (ClientFrame.subscription q.action q.filter.toSpec).encode) :
    (r.answerAll id feed).1 = sent.map (fun q => .ack q.action q.filter.toSpec) ∧
      (r.answerAll id feed).2.Serves id (sent.foldl Wish.grant fs) := by
  induction sent generalizing r fs feed with
  | nil =>
    obtain rfl : feed = [] := List.map_eq_nil_iff.mp hfeed
    exact ⟨rfl, h⟩
  | cons q rest ih =>
    obtain ⟨⟨now, text⟩, later, rfl, htext, hlater⟩ := List.map_eq_cons_iff.mp hfeed
    obtain rfl : text = _ := htext
    have hfirst := hlen [q] ⟨rest, rfl⟩
    obtain ⟨r', hr', hs, hconfig⟩ :=
      h.answerText hfs (hsent q List.mem_cons_self) hfirst hfire now
    obtain ⟨hframes, hserves⟩ := ih hs (Wish.nodup_grant hfs q) (hconfig ▸ hfire)
      (fun q' hq' => hsent q' (List.mem_cons_of_mem _ hq'))
      (fun front hfront => hconfig ▸ hlen (q :: front) (List.cons_prefix_cons.mpr ⟨rfl, hfront⟩))
      hlater
    constructor
    · simp only [Registry.answerAll, hr', hframes, List.map_cons]
    · simpa only [Registry.answerAll, hr', List.foldl_cons] using hserves

end Fanout.Registry
