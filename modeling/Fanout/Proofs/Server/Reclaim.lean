import Fanout.Proofs.Server.Locking
import Mathlib.Data.List.Pairwise

/-!
Nothing is left behind by a connection that is closed while others subscribe it. Main statement: once
a call to close has returned, and those that were under way for its connection have too, the bus has
nothing for that connection and never will; and nobody takes a subscription from another connection.
-/
namespace Fanout.Registry

variable {r r' : Registry} {id : ConnectionId} {c : Call} {calls calls' others : List Call}

/-- A call leaves the filters of other connections alone. -/
theorem ownedBy_advance (c : Call) (r : Registry) (taken : ConnectionId → Bool) {j : ConnectionId}
    (hj : j ≠ c.id) : (c.advance r taken).2.ownedBy j = r.ownedBy j := by
  cases c with
  | subscribe now id f p =>
    cases p with
    | called | found =>
      simp only [Call.advance, Subscribing.advance]
      split_ifs <;> rfl
    | locked =>
      simp only [Call.advance, Subscribing.advance]
      split
      · rfl
      · split_ifs <;> rfl
    | unclosed | admitted =>
      simp only [Call.advance, Subscribing.advance]
      split <;> rfl
    | made sub => exact ownedBy_update_of_ne _ hj
    | returned result => rfl
  | unsubscribe id f p =>
    cases p with
    | called =>
      simp only [Call.advance, Unsubscribing.advance]
      split_ifs <;> rfl
    | found =>
      simp only [Call.advance, Unsubscribing.advance]
      split_ifs
      · rfl
      · obtain hd | ⟨conn, sub, -, -, hd⟩ := disown_cases r id f
        · rw [hd]
        · rw [hd]
          exact ownedBy_update_of_ne _ hj
    | disowned sub | returned result => rfl
  | close id p =>
    cases p with
    | called =>
      simp only [Call.advance, Closing.advance, unregister]
      split_ifs <;> rfl
    | removed => exact ownedBy_update_of_ne _ hj
    | waiting =>
      have hquiet : Quiet r ((r.endClose id).getD r) := .endClose
      simp only [Call.advance, Closing.advance]
      split
      · rename_i r₁ he
        rw [he] at hquiet
        exact hquiet.owned j
      · rfl
    | stopped =>
      simp only [Call.advance, Closing.advance]
      split_ifs
      · rfl
      · exact (r.disownAll_frame id).2.2.2 j hj
    | draining left => cases left <;> rfl
    | returned closed => rfl

theorem mem_held_iff {g : Bus.Grant ConnectionId} :
    g ∈ r.held ↔ (g.filter, g.id) ∈ r.ownedBy g.handler := by
  unfold held heldBy
  rw [List.mem_flatMap]
  constructor
  · rintro ⟨j, -, hg⟩
    obtain ⟨p, hp, rfl⟩ := List.mem_map.mp hg
    exact hp
  · intro hg
    refine ⟨g.handler, ?_, List.mem_map.mpr ⟨_, hg, rfl⟩⟩
    by_contra hkey
    have hnone : r.connection? g.handler = none := Keyed.get?_eq_none_iff.mpr hkey
    simp [ownedBy, hnone] at hg

theorem handler_of_mem_pending {g : Bus.Grant ConnectionId} (h : g ∈ c.pending) :
    g.handler = c.id := by
  cases c with
  | subscribe now id f p => cases p <;> simp_all [Call.pending, Call.id]
  | unsubscribe id f p => cases p <;> simp_all [Call.pending, Call.id]
  | close id p =>
    cases p with
    | draining left =>
      obtain ⟨p, -, rfl⟩ := List.mem_map.mp h
      rfl
    | called | removed | waiting | stopped | returned => cases h

/-- The bus has what connections own and what calls have yet to hand over or to take back. -/
theorem Sound.mem_grants_iff (h : Sound r calls) {g : Bus.Grant ConnectionId} :
    g ∈ r.bus.grants ↔
      (g.filter, g.id) ∈ r.ownedBy g.handler ∨ ∃ c ∈ calls, g ∈ c.pending := by
  rw [h.consistent.backs.grants_perm.mem_iff, List.mem_append, mem_held_iff, List.mem_flatMap]

namespace World

variable {w w' : World}

/-- A step that takes something from a connection is a step of a call on that connection. -/
theorem Sound.removal (h : Sound w) (hs : Step w w') {j : ConnectionId}
    (hloss : (∃ p ∈ w.registry.ownedBy j, p ∉ w'.registry.ownedBy j) ∨
      ∃ g ∈ w.registry.bus.grants, g.handler = j ∧ g ∉ w'.registry.bus.grants) :
    ∃ n c, w' = w.advance n ∧ w.calls[n]? = some c ∧ c.id = j := by
  have hnext := h.step hs
  obtain ⟨c, -, -, rfl⟩ | ⟨n, rfl⟩ | ⟨r', ha, rfl⟩ := hs.cases
  · rcases hloss with ⟨p, hp, hnp⟩ | ⟨g, hg, -, hng⟩
    · exact absurd hp hnp
    · exact absurd hg hng
  · obtain hn | ⟨c, others, hc, hp, hr, hcalls⟩ := w.advance_cases n
    · rw [hn] at hloss
      rcases hloss with ⟨p, hp, hnp⟩ | ⟨g, hg, -, hng⟩
      · exact absurd hp hnp
      · exact absurd hg hng
    · refine ⟨n, c, rfl, hc, ?_⟩
      by_contra hne
      have howned : (w.advance n).registry.ownedBy j = w.registry.ownedBy j := by
        rw [hr]
        exact ownedBy_advance c _ _ (Ne.symm hne)
      rcases hloss with ⟨p, hp, hnp⟩ | ⟨g, hg, rfl, hng⟩
      · rw [howned] at hnp
        exact hnp hp
      · apply hng
        rw [Registry.Sound.mem_grants_iff hnext, howned]
        rcases (Registry.Sound.mem_grants_iff h).mp hg with hg | ⟨d, hd, hg⟩
        · exact .inl hg
        · rcases List.mem_cons.mp (hp.mem_iff.mp hd) with rfl | hd'
          · exact absurd (handler_of_mem_pending hg).symm hne
          · exact .inr ⟨d, hcalls.mem_iff.mpr (List.mem_cons_of_mem _ hd'), hg⟩
  · rcases hloss with ⟨p, hp, hnp⟩ | ⟨g, hg, -, hng⟩
    · rw [ha.owned j] at hnp
      exact absurd hp hnp
    · refine absurd ?_ hng
      simpa only [Bus.grants, ha.table] using hg

end World

namespace Call

theorem isIdle_of_hasReturned {c : Call} (hc : c.isClose = false) (h : c.hasReturned = true) :
    c.isIdle = true := by
  cases c with
  | subscribe now id f p =>
    cases p with
    | returned => rfl
    | _ => cases h
  | unsubscribe id f p =>
    cases p with
    | returned => rfl
    | _ => cases h
  | close id p => cases hc

theorem pending_of_isIdle {c : Call} (h : c.isIdle = true) : c.pending = [] := by
  cases c with
  | subscribe now id f p =>
    cases p with
    | made => cases h
    | _ => rfl
  | unsubscribe id f p =>
    cases p with
    | disowned => cases h
    | _ => rfl
  | close id p => cases h

end Call

/-- A call has closed the connection, and no other call on it is under way. -/
structure AtRest (id : ConnectionId) (calls : List Call) : Prop where
  closed : .close id (.returned true) ∈ calls
  idle : ∀ c ∈ calls, c.id = id → c.isClose = false → c.isIdle = true

theorem AtRest.perm (h : AtRest id calls) (hp : calls.Perm calls') : AtRest id calls' :=
  ⟨hp.mem_iff.mp h.closed, fun c hc => h.idle c (hp.mem_iff.mpr hc)⟩

theorem eq_of_nodup_filterMap {α β : Type} {g : α → Option β} {l : List α} {a b : α} {x : β}
    (h : (l.filterMap g).Nodup) (ha : a ∈ l) (hb : b ∈ l) (hga : g a = some x)
    (hgb : g b = some x) : a = b := by
  by_contra hne
  have hapart := List.pairwise_filterMap.mp h
  have : Std.Symm fun a b => ∀ y, g a = some y → ∀ z, g b = some z → y ≠ z :=
    ⟨fun _ _ hR y hy z hz => (hR z hz y hy).symm⟩
  exact hapart.forall ha hb hne x hga x hgb rfl

/-- Nothing is left of a connection at rest. -/
theorem Sound.empty_of_atRest (h : Sound r calls) (ha : AtRest id calls) :
    r.ownedBy id = [] ∧ ∀ g ∈ r.bus.grants, g.handler ≠ id := by
  have hnone := (h.fits _ ha.closed).2.2 rfl
  refine ⟨hnone, ?_⟩
  rintro g hg rfl
  rcases h.mem_grants_iff.mp hg with hg | ⟨c, hc, hg⟩
  · rw [hnone] at hg
    cases hg
  · have hid := (handler_of_mem_pending hg).symm
    cases hclose : c.isClose with
    | false =>
      rw [Call.pending_of_isIdle (ha.idle c hc hid hclose)] at hg
      cases hg
    | true =>
      -- Of two calls to close one connection only one finds it, so this is the one that returned.
      have hgone : c.closes = some g.handler := by
        cases c with
        | subscribe | unsubscribe => cases hclose
        | close j p =>
          cases p with
          | draining left => exact congrArg some hid
          | called | removed | waiting | stopped | returned => cases hg
      have hsame := eq_of_nodup_filterMap h.closes hc ha.closed hgone rfl
      rw [hsame] at hg
      cases hg

theorem advance_id (c : Call) (r : Registry) (taken : ConnectionId → Bool) :
    (c.advance r taken).1.id = c.id ∧ (c.advance r taken).1.isClose = c.isClose := by
  cases c <;> exact ⟨rfl, rfl⟩

/-- A call that looks up a connection that is gone returns at once. -/
theorem isIdle_advance {taken : ConnectionId → Bool} (hc : c.isIdle = true)
    (hgone : c.id ∉ r.live) : (c.advance r taken).1.isIdle = true := by
  have hl : r.isLive c.id = false := by
    rw [← Bool.not_eq_true, isLive_iff]
    exact hgone
  cases c with
  | subscribe now id f p =>
    cases p with
    | called =>
      have hl : r.isLive id = false := hl
      simp [Call.advance, Subscribing.advance, hl, Call.isIdle]
    | returned => rfl
    | found | locked | unclosed | admitted | made => cases hc
  | unsubscribe id f p =>
    cases p with
    | called =>
      have hl : r.isLive id = false := hl
      simp [Call.advance, Unsubscribing.advance, hl, Call.isIdle]
    | returned => rfl
    | found | disowned => cases hc
  | close id p => cases hc

theorem AtRest.advance {taken : ConnectionId → Bool} (hs : Sound r (c :: others))
    (h : AtRest id (c :: others)) : AtRest id ((c.advance r taken).1 :: others) := by
  have hgone := ((hs.fits _ h.closed).1 rfl).2
  obtain ⟨hid, hclose⟩ := advance_id c r taken
  constructor
  · rcases List.mem_cons.mp h.closed with rfl | hm
    · exact List.mem_cons_self
    · exact List.mem_cons_of_mem _ hm
  · intro d hd hdid hdclose
    rcases List.mem_cons.mp hd with rfl | hd'
    · rw [hid] at hdid
      rw [hclose] at hdclose
      have hidle := h.idle c List.mem_cons_self hdid hdclose
      rw [← hdid] at hgone
      exact isIdle_advance hidle hgone
    · exact h.idle d (List.mem_cons_of_mem _ hd') hdid hdclose

namespace World

variable {w w' : World}

theorem atRest_step (h : Sound w) (ha : AtRest id w.calls) (hs : Step w w') :
    AtRest id w'.calls := by
  obtain ⟨c, hc, hnew, rfl⟩ | ⟨n, rfl⟩ | ⟨r', -, rfl⟩ := hs.cases
  · constructor
    · exact List.mem_append_left _ ha.closed
    · intro d hd hdid hdclose
      rcases List.mem_append.mp hd with hd | hd
      · exact ha.idle d hd hdid hdclose
      · rw [List.mem_singleton.mp hd] at hdclose ⊢
        exact hnew hdclose
  · obtain hn | ⟨c, others, -, hp, -, hcalls⟩ := w.advance_cases n
    · rwa [hn]
    · exact (AtRest.advance (Registry.Sound.perm h hp) (ha.perm hp)).perm hcalls.symm
  · exact ha

/-- A connection that was closed has nothing once the calls on it have ended, and nobody but calls on
a connection takes anything from it. -/
theorem reclaim_of_reachable {config : RegistryConfig} {capacity : Nat}
    (h : Reachable config capacity w) :
    (∀ id, .close id (.returned true) ∈ w.calls →
      (∀ c ∈ w.calls, c.id = id → c.isClose = false → c.hasReturned = true) →
      ∀ w', Later w w' → w'.registry.ownedBy id = [] ∧
        ∀ g ∈ w'.registry.bus.grants, g.handler ≠ id) ∧
    ∀ w' j, Step w w' →
      (∃ p ∈ w.registry.ownedBy j, p ∉ w'.registry.ownedBy j) ∨
        (∃ g ∈ w.registry.bus.grants, g.handler = j ∧ g ∉ w'.registry.bus.grants) →
      ∃ n c, w' = w.advance n ∧ w.calls[n]? = some c ∧ c.id = j := by
  have hsound := Sound.of_reachable h
  constructor
  · intro id hclosed hreturned w' hlater
    have hrest : AtRest id w.calls := by
      refine ⟨hclosed, fun c hc hid hclose => ?_⟩
      exact Call.isIdle_of_hasReturned hclose (hreturned c hc hid hclose)
    have hkept : Sound w' ∧ AtRest id w'.calls := by
      induction hlater with
      | refl => exact ⟨hsound, hrest⟩
      | tail _ hs ih => exact ⟨ih.1.step hs, atRest_step ih.1 ih.2 hs⟩
    exact Registry.Sound.empty_of_atRest hkept.1 hkept.2
  · intro w' j hs hloss
    exact hsound.removal hs hloss

/-- A connection is closed between the check that it is open and the subscription that this check
lets through. -/
theorem reclaim_of_race :
    let t : Time.Timestamp := ⟨⟨2024, 1, 1⟩, 0, 0⟩
    let all : Filter := ⟨.any, none, none⟩
    ∃ w, Reachable {} 4 w ∧
      w.calls = [.subscribe t ⟨"b"⟩ all (.returned (.ok (.created ⟨1⟩))),
        .subscribe t ⟨"a"⟩ all (.returned (.ok (.created ⟨2⟩))), .close ⟨"a"⟩ (.returned true)] ∧
      w.registry.bus.table.ids = [⟨1⟩] ∧
      ∀ w', Later w w' → w'.registry.ownedBy ⟨"a"⟩ = [] ∧
        ∀ g ∈ w'.registry.bus.grants, g.handler ≠ ⟨"a"⟩ := by
  intro t all
  obtain ⟨w, hr, hcalls, hids⟩ : ∃ w, Reachable {} 4 w ∧
      w.calls = [.subscribe t ⟨"b"⟩ all (.returned (.ok (.created ⟨1⟩))),
        .subscribe t ⟨"a"⟩ all (.returned (.ok (.created ⟨2⟩))), .close ⟨"a"⟩ (.returned true)] ∧
      w.registry.bus.table.ids = [⟨1⟩] := by
    have hr₁ : Reachable {} 4 _ := Relation.ReflTransGen.refl.tail
      (.aside _ (.register ⟨"a"⟩ none 0) rfl rfl)
    have hr₂ := (hr₁.tail (.aside _ (.register ⟨"b"⟩ none 0) rfl
      (by rw [Operation.Fresh]; decide +kernel))).tail (.subscribe _ t ⟨"b"⟩ all)
    have hr₃ := (hr₂.trans (later_advances [0, 0, 0, 0, 0, 0] _)).tail (.subscribe _ t ⟨"a"⟩ all)
    have hr₄ := (hr₃.trans (later_advances [1, 1, 1] _)).tail (.close _ ⟨"a"⟩)
    have hr := hr₄.trans (later_advances [2, 2, 1, 2, 1, 1, 2, 2, 2] _)
    refine ⟨_, hr, ?_, ?_⟩
    · decide +kernel
    · decide +kernel
  refine ⟨w, hr, hcalls, hids, (reclaim_of_reachable hr).1 ⟨"a"⟩ ?_ ?_⟩
  · rw [hcalls]
    decide +kernel
  · rw [hcalls]
    decide +kernel

end World

end Fanout.Registry
