import Fanout.Proofs.Client.Course
import Fanout.Proofs.Client.Wishes
import Fanout.Proofs.Server.Answers

/-!
A client and its server agree on filters. Main statement: the requests that a session has sent on its
connection leave the server with exactly the filters that the session wants.
-/
namespace Fanout.Session

/-- A session wants each filter once, namely those last asked for. While it is connected, a server
that gets the requests sent on this connection grants them all, and its connection then owns the
filters wanted. -/
theorem agreement_of_reachable {config : SessionConfig} {t : Observed Wishes}
    (h : wishes.Reachable config t) :
    t.session.desired.Nodup ∧
    (∀ f, f ∈ t.session.desired ↔ Wish.last? f t.notes.asked = some .subscribe) ∧
    (t.session.isConnected → (∀ q ∈ t.notes.asked, q.filter.Accepted) →
      ∀ (r r₀ : Registry) (id : ConnectionId) (session : Option String) (clock : Nat),
        r.bus.isClosed = false → 0 < r.config.maxFirehose →
        t.notes.peak ≤ r.config.maxSubscriptions → r.register id session clock = .ok r₀ →
        ∀ feed : List (Time.Timestamp × String), feed.map Prod.snd = t.wire.requestTexts →
          (r₀.answerAll id feed).1 = t.wire.requests.map (fun q => .ack q.1 q.2) ∧
          ∃ c, (r₀.answerAll id feed).2.get? id = some c ∧ c.filters.Perm t.session.desired) := by
  have hkept := Kept.of_reachable h
  refine ⟨hkept.desired ▸ Wish.nodup_held _, fun f => ?_, ?_⟩
  · rw [hkept.desired]
    exact Wish.mem_held_iff
  · intro hcon haccepted r r₀ id session clock hopen hfire hpeak hreg feed hfeed
    obtain ⟨sent, hrequests, hheld, hfront, hfrom⟩ := hkept.spoken hcon
    obtain ⟨hserves, hconfig⟩ := Registry.Serves.of_register hopen hreg
    have hsent : ∀ q ∈ sent, q.filter.Accepted := by
      intro q hq
      obtain ⟨q', hq', he⟩ := hfrom q hq
      exact he ▸ haccepted q' hq'
    have htexts : feed.map Prod.snd =
        sent.map fun q => (ClientFrame.subscription q.action q.filter.toSpec).encode := by
      rw [hfeed, Wire.requestTexts_eq, hrequests, List.map_map]
      rfl
    have hlen : ∀ front, front <+: sent →
        (front.foldl Wish.grant []).length ≤ r₀.config.maxSubscriptions := by
      intro front hp
      rw [hconfig]
      exact Nat.le_trans (hfront front hp) hpeak
    obtain ⟨hframes, hend⟩ :=
      hserves.answerAll List.nodup_nil (hconfig ▸ hfire) hsent hlen htexts
    constructor
    · rw [hframes, hrequests, List.map_map]
      rfl
    · obtain ⟨c, hc, -, hkeys⟩ := hend.owns
      have hfilters : c.filters = t.session.desired := hkeys.trans hheld
      exact ⟨c, Registry.get?_eq_some_iff.mpr ⟨Registry.isLive_iff.mp hend.live, hc⟩,
        hfilters ▸ .refl _⟩

/-- A session that changes its mind before and after it is connected, while it has lost the
connection, and on the next one. -/
theorem agreement_of_changes :
    let orders : Filter := ⟨.below "order", some "acme", none⟩
    let agents : Filter := ⟨.below "agent", none, none⟩
    let all : Filter := ⟨.any, none, none⟩
    let config : SessionConfig := { url := "ws://localhost", sessionId := "s" }
    let t₁ := wishes.follow 0 [(.request (.subscribe all), 0), (.request (.subscribe orders), 0),
      (.request (.unsubscribe all), 1), (.request .connect, 1), (.accepted none, 2),
      (.request (.subscribe all), 3), (.request (.unsubscribe orders), 4)] (wishes.start config)
    let t₂ := wishes.step (.broken hangUp) 5 0 t₁
    let t₃ := wishes.step (.request (.subscribe agents)) 6 0 t₂
    let t := wishes.follow 0 [(.clock, 40000), (.accepted none, 40001),
      (.request (.unsubscribe all), 40002), (.request (.subscribe orders), 40003)] t₃
    let r := Registry.new {} 8
    let feed := t.wire.requestTexts.map fun text => (⟨⟨2026, 1, 1⟩, 0, 0⟩, text)
    t₁.session.desired = [all] ∧ t₁.wire.requests.length = 3 ∧ t₃.session.isConnected = false ∧
    t.wire.connection = 2 ∧ t.session.desired = [agents, orders] ∧ t.wire.requests.length = 4 ∧
    ∃ r₀, r.register ⟨"a"⟩ none 0 = .ok r₀ ∧
      (r₀.answerAll ⟨"a"⟩ feed).1 = t.wire.requests.map (fun q => .ack q.1 q.2) ∧
      ∃ c, (r₀.answerAll ⟨"a"⟩ feed).2.get? ⟨"a"⟩ = some c ∧ c.filters.Perm t.session.desired := by
  intro orders agents all config t₁ t₂ t₃ t r feed
  have hreach₁ : wishes.Reachable config t₁ := Observer.later_follow _ _ _ _
  have hreach : wishes.Reachable config t :=
    ((hreach₁.step _ _ _).step _ _ _).trans (Observer.later_follow _ _ _ _)
  have hcon₁ : t₁.session.isConnected = true := by decide +kernel
  have hmore : t₁.session.backoff.exhausted = false := by decide +kernel
  obtain ⟨retryAt, hle, hwait⟩ := Observer.exists_waiting_step_broken wishes hangUp 5 0 hcon₁ hmore
  have hdue : retryAt ≤ 40000 := Nat.le_trans hle (by decide +kernel)
  have hkeeps : ∀ u : Observed Wishes, u.session.phase = .waiting retryAt →
      (wishes.step (.request (.subscribe agents)) 6 0 u).session.phase = .waiting retryAt :=
    fun u hu => by simp [Observer.step, respond, handle, hu, offline]
  have ht : t = _ := Observer.follow_clock_of_waiting (hkeeps _ hwait) hdue _
  have hend : t.wire.connection = 2 ∧ t.session.desired = [agents, orders] ∧
      t.wire.requests.length = 4 ∧ t.session.isConnected = true ∧
      t.notes.peak ≤ r.config.maxSubscriptions ∧
      t.notes.asked = [⟨.subscribe, all⟩, ⟨.subscribe, orders⟩, ⟨.unsubscribe, all⟩,
        ⟨.subscribe, all⟩, ⟨.unsubscribe, orders⟩, ⟨.subscribe, agents⟩, ⟨.unsubscribe, all⟩,
        ⟨.subscribe, orders⟩] := by
    rw [ht]
    decide +kernel
  obtain ⟨hconnection, hdesired, hrequests, hcon, hpeak, hasked⟩ := hend
  have haccepted : ∀ q ∈ t.notes.asked, q.filter.Accepted := by
    have hall : all.Accepted := ⟨{}, by decide +kernel⟩
    have horders : orders.Accepted :=
      ⟨{ typePattern := some "order.*", organization := some "acme" }, by decide +kernel⟩
    have hagents : agents.Accepted := ⟨{ typePattern := some "agent.*" }, by decide +kernel⟩
    rw [hasked]
    simp [hall, horders, hagents]
  refine ⟨by decide +kernel, by decide +kernel, by decide +kernel, hconnection, hdesired, hrequests,
    _, rfl, ?_⟩
  exact (agreement_of_reachable hreach).2.2 hcon haccepted r _ ⟨"a"⟩ none 0 (by decide +kernel)
    (by decide +kernel) hpeak rfl feed (by simp [feed])

end Fanout.Session
