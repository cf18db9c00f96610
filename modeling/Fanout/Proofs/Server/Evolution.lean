import Fanout.Proofs.Server.Operations
import Mathlib.Logic.Relation

/-! What is never taken back, whatever is done to a registry. -/
namespace Fanout.Registry

variable {r r' r'' : Registry} {id : ConnectionId}

/-- No connection is forgotten, comes back or is opened again. -/
structure Evolves (r r' : Registry) : Prop where
  config : r'.config = r.config
  known : ∀ id c, r.connection? id = some c →
    ∃ c', r'.connection? id = some c' ∧ (c.cancelled = true → c'.cancelled = true)
  gone : ∀ id, (r.connection? id).isSome → id ∉ r.live → id ∉ r'.live

namespace Evolves

theorem refl (r : Registry) : Evolves r r := ⟨rfl, fun _ c hc => ⟨c, hc, fun h => h⟩, fun _ _ h => h⟩

theorem isSome (h : Evolves r r') (hknown : (r.connection? id).isSome) :
    (r'.connection? id).isSome := by
  obtain ⟨c, hc⟩ := Option.isSome_iff_exists.mp hknown
  obtain ⟨c', hc', -⟩ := h.known id c hc
  exact Option.isSome_iff_exists.mpr ⟨c', hc'⟩

theorem trans (h : Evolves r r') (h' : Evolves r' r'') : Evolves r r'' where
  config := h'.config.trans h.config
  known := by
    intro id c hc
    obtain ⟨c', hc', hcancel⟩ := h.known id c hc
    obtain ⟨c'', hc'', hcancel'⟩ := h'.known id c' hc'
    exact ⟨c'', hc'', fun hx => hcancel' (hcancel hx)⟩
  gone := fun id hid hlive => h'.gone id (h.isSome hid) (h.gone id hid hlive)

theorem of_bus (r : Registry) (b : Bus ConnectionId) : Evolves r { r with bus := b } :=
  ⟨rfl, fun _ c hc => ⟨c, hc, fun h => h⟩, fun _ _ h => h⟩

theorem update {g : Connection → Connection}
    (hg : ∀ c, r.connection? id = some c → c.cancelled = true → (g c).cancelled = true) :
    Evolves r (r.update id g) := by
  refine ⟨rfl, fun j c hc => ?_, fun _ _ h => h⟩
  rw [connection?_update]
  by_cases hj : j = id
  · subst hj
    rw [if_pos rfl, hc]
    exact ⟨g c, rfl, hg c hc⟩
  · rw [if_neg hj]
    exact ⟨c, hc, fun h => h⟩

theorem enqueue_cancelled (c : Connection) (frame : String) (h : c.cancelled = true) :
    (c.enqueue frame).2.cancelled = true := by
  rcases hp : c.queue.push frame with ⟨o, q⟩
  simp only [Connection.enqueue, hp]
  cases o with
  | queued | closed | droppedOldest => exact h
  | overflow => rfl

theorem unregister (r : Registry) (id : ConnectionId) : Evolves r (r.unregister id).2 := by
  unfold Registry.unregister
  split_ifs
  · refine ⟨rfl, fun _ c hc => ⟨c, hc, fun h => h⟩, fun j _ hj hm => hj ?_⟩
    exact List.mem_of_mem_filter hm
  · exact refl r

theorem endClose {r₁ : Registry} (h : r.endClose id = some r₁) : Evolves r r₁ := by
  unfold Registry.endClose at h
  obtain ⟨c, hc, h⟩ := Option.bind_eq_some_iff.mp h
  obtain ⟨c', hc', h⟩ := Option.bind_eq_some_iff.mp h
  rw [← Option.some.inj h]
  refine update fun d hd hcancel => ?_
  obtain rfl : c = d := Option.some.inj (hc.symm.trans hd)
  unfold Connection.endClose at hc'
  split_ifs at hc'
  rw [← Option.some.inj hc']
  exact hcancel

theorem register {session : Option String} {clock : Nat} (hid : r.connection? id = none)
    (hr : r.register id session clock = .ok r') : Evolves r r' := by
  obtain ⟨-, hconfig, -, -, hlive, -⟩ := register_eq hid hr
  unfold Registry.register at hr
  split_ifs at hr
  obtain rfl := Except.ok.inj hr
  refine ⟨hconfig, fun j c hc => ⟨c, ?_, fun h => h⟩, fun j hj hgone hm => ?_⟩
  · have hne : j ≠ id := by
      rintro rfl
      rw [hid] at hc
      cases hc
    exact (Keyed.get?_put_of_ne hne).trans hc
  · rw [hlive] at hm
    rcases List.mem_append.mp hm with hm | hm
    · exact hgone hm
    · -- The one who comes was not known before.
      rw [List.mem_singleton.mp hm, hid] at hj
      cases hj

theorem stepLoop {bus : Bus ConnectionId} {connections : Connections}
    (h : r.bus.stepLoop forward r.connections = some (bus, connections)) :
    Evolves r { r with bus, connections } := by
  obtain ⟨d, -, -, rfl, rfl⟩ | ⟨d, sub, conn, rest, o, b, hd, -, hreact, rfl⟩ |
    ⟨e, c, -, -, rfl, rfl⟩ | ⟨-, -, rfl, rfl⟩ := Bus.stepLoop_cases h
  · exact of_bus r _
  · simp only [forward, Bus.takeFrame, Option.map_some] at hreact
    obtain ⟨-, -, rfl⟩ : _ ∧ _ = b ∧ _ = connections := by simpa using hreact
    have hu : Evolves r (r.update conn fun c => (c.enqueue d.event.frame).2) :=
      update fun c _ => enqueue_cancelled c _
    exact hu.trans (of_bus _ _)
  · exact of_bus r _
  · exact of_bus r _

theorem runLoop (fuel : Nat) : Evolves r { r with
    bus := (r.bus.runLoop forward fuel r.connections).1
    connections := (r.bus.runLoop forward fuel r.connections).2 } := by
  induction fuel generalizing r with
  | zero => exact refl r
  | succ fuel ih =>
    cases hs : r.bus.stepLoop forward r.connections with
    | none => simpa only [Bus.runLoop, hs] using refl r
    | some x =>
      obtain ⟨bus, connections⟩ := x
      simp only [Bus.runLoop, hs]
      exact (stepLoop hs).trans (ih (r := { r with bus, connections }))

theorem deliver : Evolves r r.deliver := runLoop r.bus.backlog

theorem publish (e : Event) : Evolves r (r.publish e).2 := by
  unfold Registry.publish
  split
  · exact refl r
  · split
    · exact of_bus r _
    · have hd (b : Bus ConnectionId) : Evolves r (Registry.deliver { r with bus := b }) :=
        (of_bus r b).trans deliver
      dsimp only
      split
      · exact (hd _).trans (of_bus _ _)
      · exact (hd _).trans (of_bus _ _)

theorem dispatch : Evolves r r.dispatch := by
  unfold Registry.dispatch
  split
  · exact stepLoop ‹_›
  · exact refl r

theorem enqueue {frame : String} {o : PushOutcome} (h : r.enqueue id frame = .ok (o, r')) :
    Evolves r r' := by
  unfold Registry.enqueue Registry.get? at h
  split at h
  · cases h
  · rename_i c hc
    have hconn : r.connection? id = some c := by
      split_ifs at hc
      exact hc
    rw [← (Prod.mk.inj (Except.ok.inj h)).2]
    refine update fun d hd hcancel => ?_
    obtain rfl : c = d := Option.some.inj (hconn.symm.trans hd)
    exact enqueue_cancelled c frame hcancel

theorem subscribe {now : Time.Timestamp} {f : Filter} {o : SubscribeOutcome}
    (hs : r.subscribe now id f = .ok (o, r')) : Evolves r r' := by
  unfold Registry.subscribe at hs
  split_ifs at hs
  obtain ⟨-, -, -, -, -, -, rfl⟩ | ⟨-, sub, bus, -, -, -, -, -, -, -, rfl⟩ := subscribeOn_cases hs
  · exact refl _
  · exact (of_bus r bus).trans (update fun _ _ h => h)

theorem unsubscribe {f : Filter} {b : Bool} (hu : r.unsubscribe id f = .ok (b, r')) :
    Evolves r r' := by
  unfold Registry.unsubscribe at hu
  split_ifs at hu
  obtain hn | ⟨-, sub, -, -, hd⟩ := disown_cases r id f
  · rw [hn] at hu
    obtain ⟨-, rfl⟩ := Prod.mk.inj (Except.ok.inj hu)
    exact refl _
  · rw [hd] at hu
    obtain ⟨-, rfl⟩ := Prod.mk.inj (Except.ok.inj hu)
    have hdisown : Evolves r (r.update id fun c => { c with owned := Keyed.erase f c.owned }) :=
      update fun _ _ h => h
    exact hdisown.trans (of_bus _ _)

theorem disownAll (r : Registry) (id : ConnectionId) : Evolves r (r.disownAll id).2 := by
  unfold Registry.disownAll
  cases r.connection? id with
  | none => exact refl r
  | some c => exact update fun _ _ h => h

theorem dropSubscriptions (r : Registry) (id : ConnectionId) :
    Evolves r (r.dropSubscriptions id) := by
  rw [dropSubscriptions_eq, foldl_unsubscribeBus]
  exact (disownAll r id).trans (of_bus _ _)

theorem close (r : Registry) (id : ConnectionId) : Evolves r (r.close id).2 := by
  have hu := unregister r id
  unfold Registry.close
  split
  · rename_i r₁ hr₁
    rwa [hr₁] at hu
  · rename_i r₁ hr₁
    rw [hr₁] at hu
    have hbegin : Evolves r₁ (r₁.beginClose id) := update fun _ _ _ => rfl
    have hend : Evolves (r₁.beginClose id)
        (((r₁.beginClose id).endClose id).getD (r₁.beginClose id)) := by
      cases he : (r₁.beginClose id).endClose id with
      | none => exact refl _
      | some r₂ => exact endClose he
    exact (hu.trans hbegin).trans (hend.trans (dropSubscriptions _ id))

theorem closeAll (r : Registry) : Evolves r r.closeAll := by
  unfold Registry.closeAll
  generalize r.live = ids
  induction ids generalizing r with
  | nil => exact refl r
  | cons id rest ih => exact (close r id).trans (ih _)

theorem perform {op : Operation} (hf : op.Fresh r) : Evolves r (op.perform r) := by
  cases op with
  | register id session clock =>
    simp only [Operation.perform]
    cases hr : r.register id session clock with
    | error e => exact refl r
    | ok r' => exact register hf hr
  | subscribe now id f =>
    simp only [Operation.perform]
    cases hs : r.subscribe now id f with
    | error e => exact refl r
    | ok x => exact subscribe hs
  | unsubscribe id f =>
    simp only [Operation.perform]
    cases hu : r.unsubscribe id f with
    | error e => exact refl r
    | ok x => exact unsubscribe hu
  | enqueue id frame =>
    simp only [Operation.perform]
    cases he : r.enqueue id frame with
    | error e => exact refl r
    | ok x => exact enqueue he
  | popFrame id => exact update fun _ _ h => h
  | cancel id => exact update fun _ _ _ => rfl
  | close id => exact close r id
  | closeAll => exact closeAll r
  | publish e => exact publish e
  | tryPublish e => exact of_bus r _
  | dispatch => exact dispatch
  | deliver => exact deliver

end Evolves

/-- What further operations make of a registry. -/
def Later : Registry → Registry → Prop :=
  Relation.ReflTransGen fun r r' => ∃ op : Operation, op.Fresh r ∧ r' = op.perform r

theorem Evolves.of_later (h : Later r r') : Evolves r r' := by
  induction h with
  | refl => exact refl r
  | tail _ hop ih =>
    obtain ⟨op, hf, rfl⟩ := hop
    exact ih.trans (perform hf)

theorem Reachable.later {config : RegistryConfig} {capacity : Nat}
    (h : Reachable config capacity r) (hlater : Later r r') : Reachable config capacity r' := by
  induction hlater with
  | refl => exact h
  | tail _ hop ih =>
    obtain ⟨op, hf, rfl⟩ := hop
    exact ih.step op hf

end Fanout.Registry
