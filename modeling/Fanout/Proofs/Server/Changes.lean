import Fanout.Proofs.Server.Calls
import Fanout.Server.Shutdown

/-! What calls and shutdowns do to a registry, part by part. Each step of theirs is a few of these
changes, so what all changes keep is kept by every one of them. -/
namespace Fanout

namespace Registry

variable {r r' : Registry} {id : ConnectionId}

/-- One change. What becomes of the bus is left open, and so is what becomes of a connection as long as
it owns the same. -/
inductive Change : Registry → Registry → Prop where
  | bus (r : Registry) (bus : Bus ConnectionId) : Change r { r with bus }
  | within (r : Registry) (id : ConnectionId) (g : Connection → Connection)
      (hg : ∀ c, r.connection? id = some c → (g c).owned = c.owned) : Change r (r.update id g)
  | adopt (r : Registry) (id : ConnectionId) (f : Filter) (sub : SubscriptionId) :
      Change r (r.update id fun c => { c with owned := Keyed.put f sub c.owned })
  | disown (r : Registry) (id : ConnectionId) (f : Filter) : Change r (r.disown id f).2
  | disownAll (r : Registry) (id : ConnectionId) : Change r (r.disownAll id).2
  | unregister (r : Registry) (id : ConnectionId) : Change r (r.unregister id).2

def Changes : Registry → Registry → Prop := Relation.ReflTransGen Change

theorem Change.changes (h : Change r r') : Changes r r' := .single h

theorem Change.beginClose (r : Registry) (id : ConnectionId) : Change r (r.beginClose id) :=
  .within r id (·.beginClose closeCall) fun _ _ => rfl

theorem Changes.endClose (h : r.endClose id = some r') : Changes r r' := by
  obtain ⟨c, hc, h⟩ := Option.bind_eq_some_iff.mp h
  obtain ⟨c', hc', h⟩ := Option.bind_eq_some_iff.mp h
  obtain rfl := Option.some.inj h
  refine .single (.within r id _ fun d hd => ?_)
  obtain rfl := Option.some.inj (hc.symm.trans hd)
  unfold Connection.endClose at hc'
  split_ifs at hc'
  rw [← Option.some.inj hc']

theorem Changes.dropSubscriptions (r : Registry) (id : ConnectionId) :
    Changes r (r.dropSubscriptions id) := by
  rw [dropSubscriptions_eq, foldl_unsubscribeBus]
  exact (Change.disownAll r id).changes.tail (.bus _ _)

theorem Call.changes (c : Call) (r : Registry) (taken : ConnectionId → Bool) :
    Changes r (c.advance r taken).2 := by
  cases c with
  | subscribe now id f p =>
    cases p with
    | called | found =>
      simp only [Call.advance, Subscribing.advance]
      split_ifs <;> exact .refl
    | locked =>
      simp only [Call.advance, Subscribing.advance]
      split
      · exact .refl
      · split_ifs <;> exact .refl
    | unclosed =>
      simp only [Call.advance, Subscribing.advance]
      split <;> exact .refl
    | admitted =>
      simp only [Call.advance, Subscribing.advance]
      split
      · exact .refl
      · exact (Change.bus r _).changes
    | made sub => exact (Change.adopt r id f sub).changes
    | returned result => exact .refl
  | unsubscribe id f p =>
    cases p with
    | called =>
      simp only [Call.advance, Unsubscribing.advance]
      split_ifs <;> exact .refl
    | found =>
      have hdisown := (Change.disown r id f).changes
      simp only [Call.advance, Unsubscribing.advance]
      split_ifs
      · exact .refl
      · split
        · rename_i hd
          rwa [hd] at hdisown
        · rename_i hd
          rwa [hd] at hdisown
    | disowned sub => exact (Change.bus r _).changes
    | returned result => exact .refl
  | close id p =>
    cases p with
    | called =>
      have hunregister := (Change.unregister r id).changes
      simp only [Call.advance, Closing.advance]
      split
      · rename_i hu
        rwa [hu] at hunregister
      · rename_i hu
        rwa [hu] at hunregister
    | removed => exact (Change.beginClose r id).changes
    | waiting =>
      simp only [Call.advance, Closing.advance]
      split
      · rename_i he
        exact .endClose he
      · exact .refl
    | stopped =>
      simp only [Call.advance, Closing.advance]
      split_ifs
      · exact .refl
      · exact (Change.disownAll r id).changes
    | draining left =>
      cases left with
      | nil => exact .refl
      | cons p left => exact (Change.bus r _).changes
    | returned closed => exact .refl

end Registry

namespace ShutdownStage

variable {r r' : Registry} {stage stage' : ShutdownStage} {tasksEnded : Bool}

theorem changes_step (hs : stage.step r tasksEnded = some (stage', r')) : r.Changes r' := by
  cases stage with
  | closing left =>
    cases left with
    | nil =>
      obtain ⟨-, rfl⟩ := Prod.mk.inj (Option.some.inj hs)
      exact (Registry.Change.bus r _).changes
    | cons id left =>
      have hunregister := (Registry.Change.unregister r id).changes
      simp only [step] at hs
      split at hs
      · rename_i hu
        obtain ⟨-, rfl⟩ := Prod.mk.inj (Option.some.inj hs)
        rwa [hu] at hunregister
      · rename_i hu
        obtain ⟨-, rfl⟩ := Prod.mk.inj (Option.some.inj hs)
        rw [hu] at hunregister
        exact hunregister.tail (.beginClose _ id)
  | awaitingWrite id left =>
    obtain ⟨r₁, hend, hr⟩ := Option.map_eq_some_iff.mp hs
    obtain ⟨-, rfl⟩ := Prod.mk.inj hr
    exact (Registry.Changes.endClose hend).trans (Registry.Changes.dropSubscriptions r₁ id)
  | draining =>
    simp only [step] at hs
    split_ifs at hs
    · obtain ⟨-, rfl⟩ := Prod.mk.inj (Option.some.inj hs)
      exact .refl
    · obtain ⟨bus, -, hr⟩ := Option.map_eq_some_iff.mp hs
      obtain ⟨-, rfl⟩ := Prod.mk.inj hr
      exact (Registry.Change.bus r _).changes
  | joining =>
    simp only [step] at hs
    split_ifs at hs
    obtain ⟨-, rfl⟩ := Prod.mk.inj (Option.some.inj hs)
    exact .refl
  | finished => cases hs

theorem changes_abandon (stage : ShutdownStage) (r : Registry) : r.Changes (stage.abandon r) := by
  cases stage with
  | awaitingWrite id left =>
    have hchange : r.Change (r.update id (·.abandonClose Registry.closeCall)) :=
      .within r id _ fun _ _ => rfl
    exact hchange.changes
  | draining => exact (Registry.Change.bus r _).changes
  | closing left | joining | finished => exact .refl

end ShutdownStage

end Fanout
