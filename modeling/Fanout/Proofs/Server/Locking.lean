import Fanout.Proofs.Server.Calls

/-!
What calls on a registry can rely on while others go on. A call that has checked that a connection is
open keeps the lock until it has inserted its subscription, and a call to close takes the filters away
only after it has cancelled the connection.
-/
namespace Fanout.Registry

namespace Subscribing

/-- Past the check whether the connection is closed. -/
def isPast : Subscribing → Bool
  | .unclosed | .admitted | .made _ => true
  | _ => false

/-- Past the check of the limits. -/
def isAdmitted : Subscribing → Bool
  | .admitted | .made _ => true
  | _ => false

end Subscribing

namespace Closing

def isGone : Closing → Bool
  | .called | .returned false => false
  | _ => true

def isStopped : Closing → Bool
  | .called | .removed | .returned false => false
  | _ => true

def isDrained : Closing → Bool
  | .draining _ | .returned true => true
  | _ => false

theorem isStopped_of_isDrained {p : Closing} (h : p.isDrained = true) : p.isStopped = true := by
  cases p with
  | called | removed => cases h
  | waiting | stopped | draining => rfl
  | returned b =>
    cases b with
    | false => cases h
    | true => rfl

end Closing

namespace Call

/-- A call to subscribe or to unsubscribe that has not begun or has ended. -/
def isIdle : Call → Bool
  | .subscribe _ _ _ .called | .subscribe _ _ _ (.returned _) | .unsubscribe _ _ .called
  | .unsubscribe _ _ (.returned _) => true
  | _ => false

/-- The connection that a call will make a subscription for, as far as it depends on a cancel. -/
def passes : Call → Option ConnectionId
  | .subscribe _ id _ p => if p.isPast then some id else none
  | _ => none

def closes : Call → Option ConnectionId
  | .close id p => if p.isGone then some id else none
  | _ => none

def drains : Call → Option ConnectionId
  | .close id p => if p.isDrained then some id else none
  | _ => none

/-- What the bus has on account of a call alone. -/
def pending : Call → List (Bus.Grant ConnectionId)
  | .subscribe _ id f (.made sub) => [⟨sub, f, id⟩]
  | .unsubscribe id f (.disowned sub) => [⟨sub, f, id⟩]
  | .close id (.draining left) => left.map fun p => ⟨p.2, p.1, id⟩
  | _ => []

structure Room (r : Registry) (id : ConnectionId) (f : Filter) : Prop where
  new : f ∉ Keyed.keys (r.ownedBy id)
  length_lt : (r.ownedBy id).length < r.config.maxSubscriptions
  firehose : f.isFirehose → 0 < r.config.maxFirehose

def Fits (r : Registry) : Call → Prop
  | .subscribe _ id f p =>
    (p.isPast → (r.connection? id).isSome) ∧ (p.isAdmitted → Room r id f)
  | .unsubscribe _ _ _ => True
  | .close id p =>
    (p.isGone → (r.connection? id).isSome ∧ id ∉ r.live) ∧
    (p.isStopped → ∃ c, r.connection? id = some c ∧ c.cancelled = true) ∧
    (p.isDrained → r.ownedBy id = [])

theorem Fits.mono {r r' : Registry} {d : Call} (h : d.Fits r) (hev : Evolves r r')
    (hroom : d.locks = none ∨ r'.ownedBy d.id = r.ownedBy d.id)
    (hempty : d.drains = none ∨ (r.ownedBy d.id = [] → r'.ownedBy d.id = [])) : d.Fits r' := by
  have hknown : ∀ id, (r.connection? id).isSome → (r'.connection? id).isSome := by
    intro id hid
    obtain ⟨c, hc⟩ := Option.isSome_iff_exists.mp hid
    obtain ⟨c', hc', -⟩ := hev.known id c hc
    exact Option.isSome_iff_exists.mpr ⟨c', hc'⟩
  cases d with
  | subscribe now id f p =>
    refine ⟨fun hp => hknown id (h.1 hp), fun hp => ?_⟩
    have hlocks : locks (.subscribe now id f p) ≠ none := by
      cases p <;> simp_all [Subscribing.isAdmitted, locks]
    have howned : r'.ownedBy id = r.ownedBy id := hroom.resolve_left hlocks
    have hr := h.2 hp
    refine ⟨?_, ?_, ?_⟩
    · rw [howned]
      exact hr.new
    · rw [howned, hev.config]
      exact hr.length_lt
    · rw [hev.config]
      exact hr.firehose
  | unsubscribe => trivial
  | close id p =>
    refine ⟨fun hp => ?_, fun hp => ?_, fun hp => ?_⟩
    · obtain ⟨hid, hlive⟩ := h.1 hp
      exact ⟨hknown id hid, hev.gone id hid hlive⟩
    · obtain ⟨c, hc, hcancel⟩ := h.2.1 hp
      obtain ⟨c', hc', hcancel'⟩ := hev.known id c hc
      exact ⟨c', hc', hcancel' hcancel⟩
    · have hdrains : drains (.close id p) ≠ none := by simp [drains, hp]
      exact hempty.resolve_left hdrains (h.2.2 hp)

theorem locks_eq (d : Call) : d.locks = none ∨ d.locks = some d.id := by
  cases d with
  | subscribe _ _ _ p => cases p <;> simp [locks, id]
  | unsubscribe | close => exact .inl rfl

theorem drains_eq (d : Call) : d.drains = none ∨ d.drains = some d.id := by
  cases d with
  | subscribe | unsubscribe => exact .inl rfl
  | close id p =>
    simp only [drains]
    split_ifs
    · exact .inr rfl
    · exact .inl rfl

/-- A call that is past the check has the lock. -/
theorem locks_of_passes {c : Call} {id : ConnectionId} (h : c.passes = some id) :
    c.locks = some id := by
  cases c with
  | subscribe _ _ _ p => cases p <;> simp_all [passes, locks, Subscribing.isPast]
  | unsubscribe | close => cases h

theorem drains_of_passes {c : Call} {id : ConnectionId} (h : c.passes = some id) :
    c.drains = none := by
  cases c with
  | subscribe | unsubscribe => rfl
  | close => cases h

end Call

namespace Call

/-- A call that relies on nothing and that nobody has to reckon with. -/
structure Calm (c : Call) : Prop where
  pending : c.pending = []
  locks : c.locks = none
  closes : c.closes = none
  passes : c.passes = none
  drains : c.drains = none
  fits : ∀ r, c.Fits r

/-- What `g` says of a call that goes from `c` to `c'`: nothing, as much as before, or something that
`k` says of none of the others. -/
inductive Claim (g k : Call → Option ConnectionId) (c c' : Call) (others : List Call) : Prop
  | nothing (h : g c' = none)
  | same (h : g c' = g c)
  | free {id : ConnectionId} (h : g c' = some id) (hfree : ∀ d ∈ others, k d ≠ some id)

theorem Claim.same_or_free {g k : Call → Option ConnectionId} {c c' : Call} {others : List Call}
    {id : ConnectionId} (h : Claim g k c c' others) (hid : g c' = some id) :
    g c = some id ∨ ∀ d ∈ others, k d ≠ some id := by
  cases h with
  | nothing h => cases h.symm.trans hid
  | same h => exact .inl (h.symm.trans hid)
  | free h hfree =>
    cases h.symm.trans hid
    exact .inr hfree

theorem Calm.subscribe {now : Time.Timestamp} {id : ConnectionId} {f : Filter} {p : Subscribing}
    (h : Call.locks (.subscribe now id f p) = none) : Calm (.subscribe now id f p) := by
  cases p with
  | locked | unclosed | admitted | made => cases h
  | called | found | returned =>
    exact ⟨rfl, rfl, rfl, rfl, rfl, fun _ => ⟨by rintro ⟨⟩, by rintro ⟨⟩⟩⟩

theorem Calm.unsubscribe {id : ConnectionId} {f : Filter} {p : Unsubscribing}
    (h : Call.pending (.unsubscribe id f p) = []) : Calm (.unsubscribe id f p) :=
  ⟨h, rfl, rfl, rfl, rfl, fun _ => trivial⟩

theorem Calm.close {id : ConnectionId} {p : Closing} (h : p.isGone = false) :
    Calm (.close id p) := by
  cases p with
  | removed | waiting | stopped | draining => cases h
  | called => exact ⟨rfl, rfl, rfl, rfl, rfl, fun _ => ⟨by rintro ⟨⟩, by rintro ⟨⟩, by rintro ⟨⟩⟩⟩
  | returned b =>
    cases b with
    | false => exact ⟨rfl, rfl, rfl, rfl, rfl, fun _ => ⟨by rintro ⟨⟩, by rintro ⟨⟩, by rintro ⟨⟩⟩⟩
    | true => cases h

end Call

/-- What holds of a registry and the calls on it, in whatever order those are listed. -/
structure Sound (r : Registry) (calls : List Call) : Prop where
  consistent : Consistent r (calls.flatMap Call.pending)
  fits : ∀ c ∈ calls, c.Fits r
  /-- One call at a time has a lock. -/
  locks : (calls.filterMap Call.locks).Nodup
  /-- One call at a time closes a connection. -/
  closes : (calls.filterMap Call.closes).Nodup
  /-- Nobody subscribes a connection that has been drained. -/
  apart : ∀ c ∈ calls, ∀ d ∈ calls, ∀ id, c.passes = some id → d.drains ≠ some id

variable {r r' : Registry} {id : ConnectionId} {f : Filter} {sub : SubscriptionId}
  {c c' : Call} {calls calls' others : List Call} {pending pending' : List (Bus.Grant ConnectionId)}

theorem Consistent.perm (h : Consistent r pending) (hp : pending.Perm pending') :
    Consistent r pending' :=
  { h with backs := h.backs.perm (hp.append_left _) }

/-- The bus makes a subscription that nobody owns yet. -/
theorem Consistent.subscribeBus (h : Consistent r pending) {now : Time.Timestamp}
    {bus : Bus ConnectionId} (hb : r.bus.subscribe now f id = .ok (sub, bus)) :
    Consistent { r with bus } (⟨sub, f, id⟩ :: pending) :=
  { h with backs := (h.backs.subscribe hb).perm List.perm_middle.symm }

/-- A connection gets a subscription that nobody owned. -/
theorem Consistent.adopt {conn : Connection} (h : Consistent r (⟨sub, f, id⟩ :: pending))
    (hc : r.connection? id = some conn) (hroom : Call.Room r id f) :
    Consistent (r.update id fun c => { c with owned := Keyed.put f sub c.owned }) pending := by
  have howned := ownedBy_of_connection? hc
  have hput : Keyed.put f sub conn.owned = conn.owned ++ [(f, sub)] :=
    Keyed.put_of_not_mem (howned ▸ hroom.new)
  refine h.update rfl hc ?_ (Keyed.nodup_keys_put (howned ▸ h.filters_nodup id)) ?_ ?_
  · refine h.backs.perm (((held_perm hc).append_right _).trans ?_)
    rw [List.append_assoc]
    refine (List.perm_middle.append_left (r.heldBy id)).trans ?_
    simp [hput, heldBy, howned]
  · simp only [hput, List.length_append]
    exact howned ▸ hroom.length_lt
  · intro f' hf' hfire
    simp only [hput, Keyed.keys_append] at hf'
    rcases List.mem_append.mp hf' with ho | hn
    · exact h.firehose_allowed id f' (howned ▸ ho) hfire
    · rw [List.mem_singleton.mp hn] at hfire
      exact hroom.firehose hfire

namespace Sound

theorem perm (h : Sound r calls) (hp : calls.Perm calls') : Sound r calls' where
  consistent := h.consistent.perm (hp.flatMap_right _)
  fits := fun c hc => h.fits c (hp.mem_iff.mpr hc)
  locks := (hp.filterMap _).nodup_iff.mp h.locks
  closes := (hp.filterMap _).nodup_iff.mp h.closes
  apart := fun c hc d hd => h.apart c (hp.mem_iff.mpr hc) d (hp.mem_iff.mpr hd)

/-- A call goes from `c` to `c'`. -/
theorem replace (c' : Call) (h : Sound r (c :: others))
    (hcons : Consistent r' (c'.pending ++ others.flatMap Call.pending)) (hfits : c'.Fits r')
    (hothers : ∀ d ∈ others, d.Fits r → d.Fits r')
    (hlocks : Call.Claim Call.locks Call.locks c c' others)
    (hcloses : Call.Claim Call.closes Call.closes c c' others)
    (hpasses : Call.Claim Call.passes Call.drains c c' others)
    (hdrains : Call.Claim Call.drains Call.passes c c' others) :
    Sound r' (c' :: others) := by
  have hsingle : ∀ {g : Call → Option ConnectionId}, ((c :: others).filterMap g).Nodup →
      Call.Claim g g c c' others → ((c' :: others).filterMap g).Nodup := by
    intro g hn hg
    have hrest : (others.filterMap g).Nodup := by
      cases hgc : g c with
      | none => simpa [List.filterMap_cons, hgc] using hn
      | some x => exact (List.nodup_cons.mp (by simpa [List.filterMap_cons, hgc] using hn)).2
    cases hgc' : g c' with
    | none => simpa [List.filterMap_cons, hgc'] using hrest
    | some id =>
      rw [List.filterMap_cons_some hgc', List.nodup_cons]
      refine ⟨?_, hrest⟩
      rcases hg.same_or_free hgc' with hold | hfree
      · rw [List.filterMap_cons_some hold] at hn
        exact (List.nodup_cons.mp hn).1
      · intro hm
        obtain ⟨d, hd, hgd⟩ := List.mem_filterMap.mp hm
        exact hfree d hd hgd
  refine ⟨hcons, ?_, hsingle h.locks hlocks, hsingle h.closes hcloses, ?_⟩
  · intro d hd
    rcases List.mem_cons.mp hd with rfl | hd
    · exact hfits
    · exact hothers d hd (h.fits d (List.mem_cons_of_mem _ hd))
  · intro a ha b hb id hpass hdrain
    rcases List.mem_cons.mp ha with rfl | ha'
    · rcases List.mem_cons.mp hb with rfl | hb'
      · rw [Call.drains_of_passes hpass] at hdrain
        cases hdrain
      · rcases hpasses.same_or_free hpass with hold | hfree
        · exact h.apart c List.mem_cons_self b (List.mem_cons_of_mem _ hb') id hold hdrain
        · exact hfree b hb' hdrain
    · rcases List.mem_cons.mp hb with rfl | hb'
      · rcases hdrains.same_or_free hdrain with hold | hfree
        · exact h.apart a (List.mem_cons_of_mem _ ha') c List.mem_cons_self id hpass hold
        · exact hfree a ha' hpass
      · exact h.apart a (List.mem_cons_of_mem _ ha') b (List.mem_cons_of_mem _ hb') id hpass hdrain

theorem calm (h : Sound r (c :: others)) (hc : c.pending = []) (hc' : c'.Calm) :
    Sound r (c' :: others) := by
  have hcons : Consistent r (c'.pending ++ others.flatMap Call.pending) := by
    rw [hc'.pending, ← hc]
    exact h.consistent
  exact h.replace c' hcons (hc'.fits r) (fun _ _ hd => hd) (.nothing hc'.locks)
    (.nothing hc'.closes) (.nothing hc'.passes) (.nothing hc'.drains)

theorem free_of_locks (h : Sound r (c :: others)) (hc : c.locks = some id) :
    ∀ d ∈ others, d.locks ≠ some id := by
  intro d hd hdl
  have hn := h.locks
  rw [List.filterMap_cons_some hc, List.nodup_cons] at hn
  exact hn.1 (List.mem_filterMap.mpr ⟨d, hd, hdl⟩)

/-- A change to the filters of one connection by whoever has the lock, or while nobody has it. -/
theorem others_fit (hev : Evolves r r')
    (hfree : ∀ d ∈ others, d.locks ≠ some id)
    (hempty : (∀ d ∈ others, d.drains ≠ some id) ∨ (r.ownedBy id = [] → r'.ownedBy id = []))
    (howned : ∀ j, j ≠ id → r'.ownedBy j = r.ownedBy j) :
    ∀ d ∈ others, d.Fits r → d.Fits r' := by
  intro d hd hfits
  by_cases hid : d.id = id
  · refine hfits.mono hev (.inl ?_) ?_
    · rcases d.locks_eq with hl | hl
      · exact hl
      · rw [hid] at hl
        exact absurd hl (hfree d hd)
    · rcases hempty with hnone | hempty
      · rcases d.drains_eq with hdr | hdr
        · exact .inl hdr
        · rw [hid] at hdr
          exact absurd hdr (hnone d hd)
      · rw [hid]
        exact .inr hempty
  · have hsame := howned d.id hid
    exact hfits.mono hev (.inr hsame) (.inr fun he => hsame.trans he)

theorem others_fit_of_owned (hev : Evolves r r')
    (howned : ∀ j, r'.ownedBy j = r.ownedBy j) : ∀ d ∈ others, d.Fits r → d.Fits r' :=
  fun d _ hfits => hfits.mono hev (.inr (howned d.id)) (.inr fun he => (howned d.id).trans he)

end Sound

theorem room_of_answer? {conn : Connection} (hc : r.connection? id = some conn)
    (ha : answer? r.config conn f = none) : Call.Room r id f := by
  have howned := ownedBy_of_connection? hc
  unfold answer? at ha
  split at ha
  · cases ha
  · rename_i hnone
    split_ifs at ha with hlen hfire
    refine ⟨?_, ?_, fun hf => ?_⟩
    · rw [howned]
      exact Keyed.get?_eq_none_iff.mp hnone
    · rw [howned]
      exact Nat.lt_of_not_le hlen
    · rw [hf, Bool.true_and, decide_eq_true_eq, Nat.not_le] at hfire
      exact Nat.zero_lt_of_lt hfire

/-- The check of a call that has the lock sees a cancel that comes before the filters are taken. -/
theorem Sound.drains_of_unclosed {conn : Connection} (h : Sound r (c :: others))
    (hc : r.connection? id = some conn) (hopen : conn.cancelled = false) :
    ∀ d ∈ others, d.drains ≠ some id := by
  intro d hd hdrains
  have hfits := h.fits d (List.mem_cons_of_mem _ hd)
  cases d with
  | subscribe | unsubscribe => cases hdrains
  | close j p =>
    simp only [Call.drains] at hdrains
    split_ifs at hdrains with hp
    obtain rfl := Option.some.inj hdrains
    obtain ⟨conn', hc', hcancel⟩ := hfits.2.1 (Closing.isStopped_of_isDrained hp)
    rw [hc] at hc'
    rw [← Option.some.inj hc', hopen] at hcancel
    cases hcancel

/-- Nobody else closes a connection that is still there. -/
theorem Sound.not_closes_of_isLive (h : Sound r calls) (hl : r.isLive id = true) :
    ∀ d ∈ calls, d.closes ≠ some id := by
  intro d hd hcloses
  have hfits := h.fits d hd
  cases d with
  | subscribe | unsubscribe => cases hcloses
  | close j p =>
    simp only [Call.closes] at hcloses
    split_ifs at hcloses with hp
    obtain rfl := Option.some.inj hcloses
    exact (hfits.1 hp).2 (isLive_iff.mp hl)

theorem Sound.subscribe {now : Time.Timestamp} {p : Subscribing} {taken : Bool}
    (h : Sound r (.subscribe now id f p :: others))
    (hfree : taken = false → ∀ d ∈ others, d.locks ≠ some id) :
    Sound (p.advance now id f taken r).2
      (.subscribe now id f (p.advance now id f taken r).1 :: others) := by
  have hfits := h.fits _ List.mem_cons_self
  cases p with
  | called =>
    simp only [Subscribing.advance]
    split_ifs
    · exact h.calm rfl (.subscribe rfl)
    · exact h.calm rfl (.subscribe rfl)
  | found =>
    simp only [Subscribing.advance]
    split_ifs with ht
    · exact h
    · have hlocks := hfree (Bool.eq_false_iff.mpr ht)
      refine h.replace (.subscribe now id f .locked) h.consistent ⟨by rintro ⟨⟩, by rintro ⟨⟩⟩
        (fun _ _ hd => hd) ?_ ?_ ?_ ?_
      · exact .free rfl hlocks
      · exact .nothing rfl
      · exact .nothing rfl
      · exact .nothing rfl
  | locked =>
    simp only [Subscribing.advance]
    split
    · exact h.calm rfl (.subscribe rfl)
    · rename_i conn hc
      split_ifs with hclosed
      · exact h.calm rfl (.subscribe rfl)
      · have hopen : conn.cancelled = false := Bool.eq_false_iff.mpr hclosed
        have hknown : (r.connection? id).isSome := by simp [hc]
        refine h.replace (.subscribe now id f .unclosed) h.consistent ⟨fun _ => hknown, by rintro ⟨⟩⟩
          (fun _ _ hd => hd) ?_ ?_ ?_ ?_
        · exact .same rfl
        · exact .nothing rfl
        · exact .free rfl (h.drains_of_unclosed hc hopen)
        · exact .nothing rfl
  | unclosed =>
    simp only [Subscribing.advance]
    split
    · exact h.calm rfl (.subscribe rfl)
    · rename_i hnone
      obtain ⟨conn, hc⟩ := Option.isSome_iff_exists.mp (hfits.1 rfl)
      rw [hc] at hnone
      refine h.replace (.subscribe now id f .admitted) h.consistent
        ⟨fun _ => hfits.1 rfl, fun _ => room_of_answer? hc hnone⟩ (fun _ _ hd => hd) ?_ ?_ ?_ ?_
      · exact .same rfl
      · exact .nothing rfl
      · exact .same rfl
      · exact .nothing rfl
  | admitted =>
    simp only [Subscribing.advance]
    split
    · exact h.calm rfl (.subscribe rfl)
    · rename_i sub bus hb
      have hev := Evolves.of_bus r bus
      refine h.replace (.subscribe now id f (.made sub)) (h.consistent.subscribeBus hb)
        (hfits.mono hev (.inr rfl) (.inl rfl)) (others_fit_of_owned hev fun _ => rfl) ?_ ?_ ?_ ?_
      · exact .same rfl
      · exact .nothing rfl
      · exact .same rfl
      · exact .nothing rfl
  | made sub =>
    obtain ⟨conn, hc⟩ := Option.isSome_iff_exists.mp (hfits.1 rfl)
    have hcalm : Call.Calm (.subscribe now id f (.returned (.ok (.created sub)))) := .subscribe rfl
    have hev : Evolves r (r.update id fun c => { c with owned := Keyed.put f sub c.owned }) :=
      .update fun _ _ hcancel => hcancel
    have hdrained : ∀ d ∈ others, d.drains ≠ some id := by
      intro d hd
      exact h.apart _ List.mem_cons_self d (List.mem_cons_of_mem _ hd) id rfl
    refine h.replace _ (h.consistent.adopt hc (hfits.2 rfl)) (hcalm.fits _)
      (others_fit hev (h.free_of_locks rfl) (.inl hdrained) fun _ hj => ownedBy_update_of_ne _ hj)
      ?_ ?_ ?_ ?_
    · exact .nothing rfl
    · exact .nothing rfl
    · exact .nothing rfl
    · exact .nothing rfl
  | returned result => exact h

theorem Sound.unsubscribe {p : Unsubscribing} {taken : Bool}
    (h : Sound r (.unsubscribe id f p :: others))
    (hfree : taken = false → ∀ d ∈ others, d.locks ≠ some id) :
    Sound (p.advance id f taken r).2 (.unsubscribe id f (p.advance id f taken r).1 :: others) := by
  cases p with
  | called =>
    simp only [Unsubscribing.advance]
    split_ifs
    · exact h.calm rfl (.unsubscribe rfl)
    · exact h.calm rfl (.unsubscribe rfl)
  | found =>
    simp only [Unsubscribing.advance]
    split_ifs with ht
    · exact h
    · obtain hd | ⟨conn, sub, hc, hf, hd⟩ := disown_cases r id f
      · rw [hd]
        exact h.calm rfl (.unsubscribe rfl)
      · have hcons := h.consistent.disown hd
        have hev : Evolves r (r.update id fun c => { c with owned := Keyed.erase f c.owned }) :=
          .update fun _ _ hcancel => hcancel
        have hempty : r.ownedBy id = [] →
            (r.update id fun c => { c with owned := Keyed.erase f c.owned }).ownedBy id = [] := by
          intro hnone
          rw [ownedBy_of_connection? hc] at hnone
          rw [ownedBy_update_self _ hc, hnone]
          rfl
        rw [hd]
        refine h.replace (.unsubscribe id f (.disowned sub)) hcons trivial
          (others_fit hev (hfree (Bool.eq_false_iff.mpr ht)) (.inr hempty)
            fun _ hj => ownedBy_update_of_ne _ hj) ?_ ?_ ?_ ?_
        · exact .nothing rfl
        · exact .nothing rfl
        · exact .nothing rfl
        · exact .nothing rfl
  | disowned sub =>
    have hcons : Consistent r (⟨sub, f, id⟩ :: others.flatMap Call.pending) := h.consistent
    refine h.replace (.unsubscribe id f (.returned (.ok true))) hcons.unsubscribeBus trivial
      (others_fit_of_owned (.of_bus r _) fun _ => rfl) ?_ ?_ ?_ ?_
    · exact .nothing rfl
    · exact .nothing rfl
    · exact .nothing rfl
    · exact .nothing rfl
  | returned result => exact h

theorem Sound.close {p : Closing} {taken : Bool} (h : Sound r (.close id p :: others))
    (hfree : taken = false → ∀ d ∈ others, d.locks ≠ some id) :
    Sound (p.advance id taken r).2 (.close id (p.advance id taken r).1 :: others) := by
  have hfits := h.fits _ List.mem_cons_self
  cases p with
  | called =>
    simp only [Closing.advance]
    by_cases hl : r.isLive id = true
    · obtain ⟨r₁, hr₁⟩ : ∃ r₁, r.unregister id = (true, r₁) := ⟨_, if_pos hl⟩
      obtain ⟨-, hlive, howned⟩ := unregister_eq hr₁
      have hcons := h.consistent.unregister id
      have hev := Evolves.unregister r id
      rw [hr₁] at hcons hev ⊢
      have hgone : (r₁.connection? id).isSome ∧ id ∉ r₁.live := by
        obtain ⟨conn, hc⟩ := Keyed.mem_keys_iff.mp (h.consistent.live_known (isLive_iff.mp hl))
        obtain ⟨conn', hc', -⟩ := hev.known id conn hc
        refine ⟨Option.isSome_iff_exists.mpr ⟨conn', hc'⟩, ?_⟩
        rw [hlive]
        simp
      refine h.replace (.close id .removed) hcons ⟨fun _ => hgone, by rintro ⟨⟩, by rintro ⟨⟩⟩
        (others_fit_of_owned hev fun j => congrFun howned j) ?_ ?_ ?_ ?_
      · exact .nothing rfl
      · refine .free rfl fun d hd hcloses => ?_
        exact h.not_closes_of_isLive hl d (List.mem_cons_of_mem _ hd) hcloses
      · exact .nothing rfl
      · exact .nothing rfl
    · have hnone : r.unregister id = (false, r) := if_neg hl
      rw [hnone]
      exact h.calm rfl (.close rfl)
  | removed =>
    have hev : Evolves r (r.beginClose id) := .update fun _ _ _ => rfl
    have hquiet : Quiet r (r.beginClose id) := .beginClose
    have hold := hfits.mono hev (.inl rfl) (.inl rfl)
    have hstopped : ∃ conn, (r.beginClose id).connection? id = some conn ∧
        conn.cancelled = true := by
      obtain ⟨conn, hc⟩ := Option.isSome_iff_exists.mp (hfits.1 rfl).1
      refine ⟨conn.beginClose closeCall, ?_, rfl⟩
      rw [beginClose, connection?_update, if_pos rfl, hc]
      rfl
    refine h.replace (.close id .waiting) (h.consistent.quiet hquiet)
      ⟨fun _ => hold.1 rfl, fun _ => hstopped, by rintro ⟨⟩⟩ (others_fit_of_owned hev hquiet.owned)
      ?_ ?_ ?_ ?_
    · exact .nothing rfl
    · exact .same rfl
    · exact .nothing rfl
    · exact .nothing rfl
  | waiting =>
    simp only [Closing.advance]
    split
    · rename_i r₁ he
      have hev := Evolves.endClose he
      have hquiet : Quiet r ((r.endClose id).getD r) := .endClose
      rw [he] at hquiet
      refine h.replace (.close id .stopped) (h.consistent.quiet hquiet)
        (hfits.mono hev (.inl rfl) (.inl rfl)) (others_fit_of_owned hev hquiet.owned) ?_ ?_ ?_ ?_
      · exact .nothing rfl
      · exact .same rfl
      · exact .nothing rfl
      · exact .nothing rfl
    · exact h
  | stopped =>
    simp only [Closing.advance]
    split_ifs with ht
    · exact h
    · have hlocks := hfree (Bool.eq_false_iff.mpr ht)
      have hev := Evolves.disownAll r id
      obtain ⟨-, -, hnone, hother⟩ := r.disownAll_frame id
      have hold := hfits.mono hev (.inl rfl) (.inl rfl)
      refine h.replace (.close id (.draining (r.ownedBy id))) (h.consistent.disownAll id)
        ⟨fun _ => hold.1 rfl, fun _ => hold.2.1 rfl, fun _ => hnone⟩
        (others_fit hev hlocks (.inr fun _ => hnone) hother) ?_ ?_ ?_ ?_
      · exact .nothing rfl
      · exact .same rfl
      · exact .nothing rfl
      · exact .free rfl fun d hd hpass => hlocks d hd (Call.locks_of_passes hpass)
  | draining left =>
    cases left with
    | nil =>
      refine h.replace (.close id (.returned true)) h.consistent hfits (fun _ _ hd => hd) ?_ ?_ ?_ ?_
      · exact .nothing rfl
      · exact .same rfl
      · exact .nothing rfl
      · exact .same rfl
    | cons p left =>
      have hcons : Consistent r (⟨p.2, p.1, id⟩ ::
          (Call.pending (.close id (.draining left)) ++ others.flatMap Call.pending)) := h.consistent
      have hev := Evolves.of_bus r (r.bus.unsubscribe p.2).2
      refine h.replace (.close id (.draining left)) hcons.unsubscribeBus
        (hfits.mono hev (.inl rfl) (.inr fun he => he)) (others_fit_of_owned hev fun _ => rfl)
        ?_ ?_ ?_ ?_
      · exact .nothing rfl
      · exact .same rfl
      · exact .nothing rfl
      · exact .same rfl
  | returned closed => exact h

/-- A call in a list of calls, and the others. -/
theorem exists_others {n : Nat} (h : calls[n]? = some c) :
    ∃ others, calls.Perm (c :: others) ∧ ∀ c', (calls.set n c').Perm (c' :: others) := by
  obtain ⟨hn, hc⟩ := List.getElem?_eq_some_iff.mp h
  have hset : ∀ c', (calls.set n c').Perm (c' :: (calls.take n ++ calls.drop (n + 1))) := by
    intro c'
    rw [List.set_eq_take_append_cons_drop, if_pos hn]
    exact List.perm_middle
  refine ⟨_, ?_, hset⟩
  have hsame : calls.set n c = calls := by
    rw [← hc]
    exact List.set_getElem_self hn
  have hown := hset c
  rwa [hsame] at hown

theorem Sound.start (config : RegistryConfig) (capacity : Nat) :
    Sound (.new config capacity) [] where
  consistent := .new config capacity
  fits := fun _ hc => absurd hc List.not_mem_nil
  locks := List.nodup_nil
  closes := List.nodup_nil
  apart := fun _ hc => absurd hc List.not_mem_nil

theorem Sound.enter (h : Sound r calls) (hc : c.Calm) : Sound r (calls ++ [c]) := by
  have hcons : Sound r (c :: calls) := by
    constructor
    · rw [List.flatMap_cons, hc.pending]
      exact h.consistent
    · intro d hd
      rcases List.mem_cons.mp hd with rfl | hd
      · exact hc.fits r
      · exact h.fits d hd
    · rw [List.filterMap_cons_none hc.locks]
      exact h.locks
    · rw [List.filterMap_cons_none hc.closes]
      exact h.closes
    · intro a ha b hb id hpass hdrain
      rcases List.mem_cons.mp ha with rfl | ha'
      · rw [hc.passes] at hpass
        cases hpass
      · rcases List.mem_cons.mp hb with rfl | hb'
        · rw [hc.drains] at hdrain
          cases hdrain
        · exact h.apart a ha' b hb' id hpass hdrain
  exact hcons.perm (List.perm_append_singleton c calls).symm

theorem Sound.aside (h : Sound r calls) (ha : Aside r r') : Sound r' calls where
  consistent := ha.consistent _ h.consistent
  fits := fun c hc => (h.fits c hc).mono ha.toEvolves (.inr (ha.owned c.id))
    (.inr fun he => (ha.owned c.id).trans he)
  locks := h.locks
  closes := h.closes
  apart := h.apart

/-- Any call may take its next step. -/
theorem Sound.advance {taken : ConnectionId → Bool} (h : Sound r (c :: others))
    (hfree : ∀ id, taken id = false → ∀ d ∈ others, d.locks ≠ some id) :
    Sound (c.advance r taken).2 ((c.advance r taken).1 :: others) := by
  cases c with
  | subscribe now id f p => exact h.subscribe (hfree id)
  | unsubscribe id f p => exact h.unsubscribe (hfree id)
  | close id p => exact h.close (hfree id)

namespace World

variable {w w' : World}

def Sound (w : World) : Prop := Registry.Sound w.registry w.calls

theorem taken_eq_false (h : w.taken id = false) : ∀ d ∈ w.calls, d.locks ≠ some id := by
  simpa [taken] using h

/-- What a step does: a call comes in, a call goes on, or something is done aside. -/
theorem Step.cases (h : Step w w') :
    (∃ c : Call, c.Calm ∧ (c.isClose = false → c.isIdle = true) ∧
      w' = { w with calls := w.calls ++ [c] }) ∨
    (∃ n, w' = w.advance n) ∨
    ∃ r', Aside w.registry r' ∧ w' = { w with registry := r' } := by
  cases h with
  | subscribe now id f => exact .inl ⟨_, .subscribe rfl, fun _ => rfl, rfl⟩
  | unsubscribe id f => exact .inl ⟨_, .unsubscribe rfl, fun _ => rfl, rfl⟩
  | close id => exact .inl ⟨_, .close rfl, by rintro ⟨⟩, rfl⟩
  | advance n => exact .inr (.inl ⟨n, rfl⟩)
  | aside op ha hf => exact .inr (.inr ⟨_, .perform ha hf, rfl⟩)
  | gate id g =>
    refine .inr (.inr ⟨_, ?_, rfl⟩)
    exact .of_quiet (.update fun _ _ hc => hc) (.update fun _ _ => rfl)

/-- A step of a call, with the others in whatever order. -/
theorem advance_cases (w : World) (n : Nat) :
    w.advance n = w ∨ ∃ c others, w.calls[n]? = some c ∧ w.calls.Perm (c :: others) ∧
      (w.advance n).registry = (c.advance w.registry w.taken).2 ∧
      (w.advance n).calls.Perm ((c.advance w.registry w.taken).1 :: others) := by
  cases hc : w.calls[n]? with
  | none => exact .inl (by simp [advance, hc])
  | some c =>
    obtain ⟨others, hp, hset⟩ := exists_others hc
    refine .inr ⟨c, others, rfl, hp, ?_, ?_⟩
    · simp [advance, hc]
    · simpa [advance, hc] using hset (c.advance w.registry w.taken).1

theorem Sound.step (h : Sound w) (hs : Step w w') : Sound w' := by
  obtain ⟨c, hc, -, rfl⟩ | ⟨n, rfl⟩ | ⟨r', ha, rfl⟩ := hs.cases
  · exact Registry.Sound.enter h hc
  · obtain hn | ⟨c, others, -, hp, hr, hcalls⟩ := w.advance_cases n
    · rwa [hn]
    · have hsound : Registry.Sound w.registry (c :: others) := Registry.Sound.perm h hp
      have hnext := hsound.advance fun id ht d hd =>
        taken_eq_false ht d (hp.mem_iff.mpr (List.mem_cons_of_mem c hd))
      unfold Sound
      rw [hr]
      exact hnext.perm hcalls.symm
  · exact Registry.Sound.aside h ha

theorem Sound.of_reachable {config : RegistryConfig} {capacity : Nat}
    (h : Reachable config capacity w) : Sound w := by
  induction h with
  | refl => exact Registry.Sound.start config capacity
  | tail _ hs ih => exact ih.step hs

end World

end Fanout.Registry
