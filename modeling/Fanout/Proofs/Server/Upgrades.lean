import Fanout.Proofs.Server.Changes
import Fanout.Server.Route

/-!
Sockets that are asked for while the server shuts down. A request is let in before its connection is
there, and a shutdown that comes between the two does not see it. Main statement: after a shutdown
that was in time, only such connections are left.
-/
namespace Fanout

inductive Upgrade where
  | requested (route : Route)
  | refused (status : HttpStatus)
  /-- The request was let in, and its connection is not there yet. -/
  | admitted (session : Option String)
  | registered (id : ConnectionId)
  /-- The request was let in, and there was no room for its connection. -/
  | rejected (e : RegistryError)
  deriving DecidableEq

inductive Departure where
  | called
  /-- Requests are refused from now on. -/
  | signalled
  | underWay (stage : ShutdownStage)
  | returned (inTime : Bool)
  deriving DecidableEq

variable {lobby : Lobby} {r r' : Registry} {id : ConnectionId} {clock : Nat} {tasksEnded : Bool}

namespace Upgrade

/-- One step of a request. Others may come between any two. -/
def advance (lobby : Lobby) (r : Registry) (id : ConnectionId) (clock : Nat) :
    Upgrade → Upgrade × Registry
  | .requested route =>
    match route.upgrade lobby with
    | .ok session => (.admitted session, r)
    | .error status => (.refused status, r)
  | .admitted session =>
    match r.register id session clock with
    | .ok r => (.registered id, r)
    | .error e => (.rejected e, r)
  | u => (u, r)

theorem upgrade_of_shuttingDown (h : lobby.shuttingDown = true) (route : Route) :
    ∃ status, route.upgrade lobby = .error status := by
  cases route with
  | socket sessions =>
    match sessions with
    | [] | [_] => exact ⟨.unavailable, by simp [Route.upgrade, h]⟩
    | _ :: _ :: _ => exact ⟨.badRequest, rfl⟩
  | health | metrics | unknown => exact ⟨_, rfl⟩

/-- Nobody is let in during a shutdown. -/
theorem advance_ne_admitted (h : lobby.shuttingDown = true) (u : Upgrade) (session : Option String) :
    (u.advance lobby r id clock).1 ≠ .admitted session := by
  cases u with
  | requested route =>
    obtain ⟨status, hs⟩ := upgrade_of_shuttingDown h route
    simp [advance, hs]
  | admitted session' =>
    cases hr : r.register id session' clock with
    | ok r' => simp [advance, hr]
    | error e => simp [advance, hr]
  | refused status | registered id' | rejected e => simp [advance]

/-- A connection that comes is that of a request that was let in. -/
theorem advance_live (u : Upgrade) {j : ConnectionId}
    (hj : j ∈ (u.advance lobby r id clock).2.live) :
    j ∈ r.live ∨ (∃ session, u = .admitted session) ∧
      (u.advance lobby r id clock).1 = .registered j := by
  cases u with
  | requested route =>
    cases hroute : route.upgrade lobby with
    | ok session => exact .inl (by simpa [advance, hroute] using hj)
    | error status => exact .inl (by simpa [advance, hroute] using hj)
  | admitted session =>
    cases hr : r.register id session clock with
    | ok r' =>
      have hlive : r'.live = r.live ++ [id] := by
        unfold Registry.register at hr
        split_ifs at hr
        exact Except.ok.inj hr ▸ rfl
      simp only [advance, hr, hlive, List.mem_append, List.mem_singleton] at hj ⊢
      rcases hj with hj | rfl
      · exact .inl hj
      · exact .inr ⟨⟨session, rfl⟩, rfl⟩
    | error e => exact .inl (by simpa [advance, hr] using hj)
  | refused status | registered id' | rejected e => exact .inl hj

end Upgrade

def ShutdownStage.left : ShutdownStage → List ConnectionId
  | .closing left | .awaitingWrite _ left => left
  | .draining | .joining | .finished => []

theorem Registry.mem_unregister {j : ConnectionId} {b : Bool} (hu : r.unregister id = (b, r'))
    (hj : j ∈ r'.live) : j ∈ r.live ∧ j ≠ id := by
  unfold Registry.unregister at hu
  split_ifs at hu with hid
  · obtain ⟨-, rfl⟩ := Prod.mk.inj hu
    obtain ⟨hmem, hne⟩ := List.mem_filter.mp hj
    exact ⟨hmem, by simpa using hne⟩
  · obtain ⟨-, rfl⟩ := Prod.mk.inj hu
    refine ⟨hj, ?_⟩
    rintro rfl
    exact hid (Registry.isLive_iff.mpr hj)

/-- A step lets nobody in, and of those that were to be closed it loses only one that is gone. -/
theorem ShutdownStage.step_live {stage stage' : ShutdownStage}
    (hs : stage.step r tasksEnded = some (stage', r')) {j : ConnectionId} (hj : j ∈ r'.live) :
    j ∈ r.live ∧ (j ∈ stage.left → j ∈ stage'.left) := by
  cases stage with
  | closing left =>
    cases left with
    | nil =>
      obtain ⟨rfl, rfl⟩ := Prod.mk.inj (Option.some.inj hs)
      exact ⟨hj, fun h => h⟩
    | cons id left =>
      simp only [step] at hs
      split at hs
      · rename_i hu
        obtain ⟨rfl, rfl⟩ := Prod.mk.inj (Option.some.inj hs)
        obtain ⟨hmem, hne⟩ := Registry.mem_unregister hu hj
        exact ⟨hmem, fun h => (List.mem_cons.mp h).resolve_left hne⟩
      · rename_i hu
        obtain ⟨rfl, rfl⟩ := Prod.mk.inj (Option.some.inj hs)
        obtain ⟨hmem, hne⟩ := Registry.mem_unregister hu hj
        exact ⟨hmem, fun h => (List.mem_cons.mp h).resolve_left hne⟩
  | awaitingWrite id left =>
    obtain ⟨r₁, hend, hr⟩ := Option.map_eq_some_iff.mp hs
    obtain ⟨rfl, rfl⟩ := Prod.mk.inj hr
    have hquiet : Registry.Quiet r ((r.endClose id).getD r) := .endClose
    have hlive : (r₁.dropSubscriptions id).live = r.live := by
      rw [(Registry.dropSubscriptions_frame r₁ id).2.1]
      simpa [hend] using hquiet.live
    rw [hlive] at hj
    exact ⟨hj, fun h => h⟩
  | draining =>
    simp only [step] at hs
    split_ifs at hs
    · obtain ⟨rfl, rfl⟩ := Prod.mk.inj (Option.some.inj hs)
      exact ⟨hj, fun h => h⟩
    · obtain ⟨bus, -, hr⟩ := Option.map_eq_some_iff.mp hs
      obtain ⟨rfl, rfl⟩ := Prod.mk.inj hr
      exact ⟨hj, fun h => h⟩
  | joining =>
    simp only [step] at hs
    split_ifs at hs
    obtain ⟨rfl, rfl⟩ := Prod.mk.inj (Option.some.inj hs)
    exact ⟨hj, fun h => h⟩
  | finished => cases hs

theorem ShutdownStage.abandon_live (stage : ShutdownStage) : (stage.abandon r).live = r.live := by
  cases stage <;> rfl

namespace Departure

/-- One step of a call, which leaves it where it is if it has to wait. -/
def advance (lobby : Lobby) (r : Registry) (tasksEnded : Bool) :
    Departure → Departure × Lobby × Registry
  | .called => (.signalled, { lobby with shuttingDown := true }, r)
  | .signalled => (.underWay (.start r), lobby, r)
  | .underWay .finished => (.returned true, lobby, r)
  | .underWay stage =>
    match stage.step r tasksEnded with
    | some (stage, r) => (.underWay stage, lobby, r)
    | none => (.underWay stage, lobby, r)
  | .returned inTime => (.returned inTime, lobby, r)

/-- Whether a connection may be there when a call has come so far. -/
def Spares (id : ConnectionId) : Departure → Prop
  | .called | .signalled => True
  | .underWay stage => id ∈ stage.left
  | .returned inTime => inTime = false

theorem advance_live (d : Departure) {j : ConnectionId}
    (hj : j ∈ (d.advance lobby r tasksEnded).2.2.live) :
    j ∈ r.live ∧ (d.Spares j → (d.advance lobby r tasksEnded).1.Spares j) := by
  cases d with
  | called => exact ⟨hj, fun h => h⟩
  | signalled => exact ⟨hj, fun _ => hj⟩
  | returned inTime => exact ⟨hj, fun h => h⟩
  | underWay stage =>
    by_cases hf : stage = .finished
    · subst hf
      refine ⟨hj, fun h => ?_⟩
      cases h
    · have hadvance : (Departure.underWay stage).advance lobby r tasksEnded =
          match stage.step r tasksEnded with
          | some (stage, r) => (.underWay stage, lobby, r)
          | none => (.underWay stage, lobby, r) := by
        cases stage with
        | finished => exact absurd rfl hf
        | closing left | awaitingWrite id left | draining | joining => rfl
      rw [hadvance] at hj ⊢
      cases hs : stage.step r tasksEnded with
      | none => exact ⟨by simpa [hs] using hj, fun h => h⟩
      | some p =>
        obtain ⟨stage', r'⟩ := p
        simp only [hs] at hj ⊢
        exact ShutdownStage.step_live hs hj

theorem advance_shuttingDown (d : Departure) (h : lobby.shuttingDown = true) :
    (d.advance lobby r tasksEnded).2.1.shuttingDown = true := by
  unfold advance
  split
  · rfl
  · exact h
  · exact h
  · split <;> exact h
  · exact h

end Departure

structure Reception where
  registry : Registry
  lobby : Lobby
  upgrades : List Upgrade := []
  departures : List Departure := []

namespace Reception

def upgrade (w : Reception) (k : Nat) (id : ConnectionId) (clock : Nat) : Reception :=
  match w.upgrades[k]? with
  | some u =>
    let (u, registry) := u.advance w.lobby w.registry id clock
    { w with registry, upgrades := w.upgrades.set k u }
  | none => w

def depart (w : Reception) (n : Nat) (tasksEnded : Bool) : Reception :=
  match w.departures[n]? with
  | some d =>
    let (d, lobby, registry) := d.advance w.lobby w.registry tasksEnded
    { w with registry, lobby, departures := w.departures.set n d }
  | none => w

/-- What can happen next. Whatever else the server does takes one connection out or leaves those that
are there. -/
inductive Step : Reception → Reception → Prop where
  | request (w : Reception) (route : Route) :
      Step w { w with upgrades := w.upgrades ++ [.requested route] }
  | upgrade (w : Reception) (k : Nat) (id : ConnectionId) (clock : Nat)
      (hf : w.registry.connection? id = none) : Step w (w.upgrade k id clock)
  | call (w : Reception) : Step w { w with departures := w.departures ++ [.called] }
  | depart (w : Reception) (n : Nat) (tasksEnded : Bool) : Step w (w.depart n tasksEnded)
  | giveUp (w : Reception) (n : Nat) (stage : ShutdownStage)
      (hd : w.departures[n]? = some (.underWay stage)) :
      Step w { w with
        registry := stage.abandon w.registry
        departures := w.departures.set n (.returned false) }
  | signal (w : Reception) : Step w { w with lobby := { w.lobby with shuttingDown := true } }
  | leave (w : Reception) (id : ConnectionId) :
      Step w { w with registry := (w.registry.unregister id).2 }
  | inside (w : Reception) (r : Registry) (hr : r.live = w.registry.live) :
      Step w { w with registry := r }

def Later : Reception → Reception → Prop := Relation.ReflTransGen Step

def Reachable (config : RegistryConfig) (capacity : Nat) (hasMetrics : Bool) : Reception → Prop :=
  Later { registry := .new config capacity, lobby := ⟨false, hasMetrics⟩ }

variable {w w' w'' : Reception} {n : Nat}

/-- The connection belongs to a request that had been let in earlier and was no connection then. -/
def Late (w w' : Reception) (id : ConnectionId) : Prop :=
  ∃ (k : Nat) (session : Option String), w.upgrades[k]? = some (.admitted session) ∧
    w'.upgrades[k]? = some (.registered id)

/-- What comes while requests are refused: nobody is let in any more, and a call to shut down spares
nobody whom it has not spared before, except for those who are late. -/
structure Onward (w w' : Reception) : Prop where
  refusing : w'.lobby.shuttingDown = true
  admitted : ∀ (k : Nat) (session : Option String), w'.upgrades[k]? = some (.admitted session) →
    w.upgrades[k]? = some (.admitted session)
  registered : ∀ (k : Nat) (id : ConnectionId), w.upgrades[k]? = some (.registered id) →
    w'.upgrades[k]? = some (.registered id)
  departures : ∀ (n : Nat) (d : Departure), w.departures[n]? = some d →
    ∃ d', w'.departures[n]? = some d' ∧ ∀ id ∈ w'.registry.live,
      (id ∈ w.registry.live ∧ (d.Spares id → d'.Spares id)) ∨ Late w w' id

theorem Late.mono (h : Late w w' id) (h' : Onward w' w'') : Late w w'' id := by
  obtain ⟨k, session, hadmitted, hregistered⟩ := h
  exact ⟨k, session, hadmitted, h'.registered k id hregistered⟩

theorem Late.of_onward (h : Onward w w') (h' : Late w' w'' id) : Late w w'' id := by
  obtain ⟨k, session, hadmitted, hregistered⟩ := h'
  exact ⟨k, session, h.admitted k session hadmitted, hregistered⟩

namespace Onward

theorem refl (h : w.lobby.shuttingDown = true) : Onward w w :=
  ⟨h, fun _ _ hk => hk, fun _ _ hk => hk, fun _ d hd => ⟨d, hd, fun _ hid => .inl ⟨hid, fun hs => hs⟩⟩⟩

theorem trans (h : Onward w w') (h' : Onward w' w'') : Onward w w'' where
  refusing := h'.refusing
  admitted := fun k session hk => h.admitted k session (h'.admitted k session hk)
  registered := fun k id hk => h'.registered k id (h.registered k id hk)
  departures := by
    intro n d hd
    obtain ⟨d', hd', hlive⟩ := h.departures n d hd
    obtain ⟨d'', hd'', hlive'⟩ := h'.departures n d' hd'
    refine ⟨d'', hd'', fun id hid => ?_⟩
    rcases hlive' id hid with ⟨hmem, hspares'⟩ | hlate
    · rcases hlive id hmem with ⟨hmem, hspares⟩ | hlate
      · exact .inl ⟨hmem, fun hs => hspares' (hspares hs)⟩
      · exact .inr (hlate.mono h')
    · exact .inr (.of_onward h hlate)

/-- After a call that was in time only those are there who are late. -/
theorem late_of_returned (h : Onward w w') (h' : Onward w' w'')
    (hd : w.departures[n]? = some .signalled) (hr : w'.departures[n]? = some (.returned true)) :
    ∀ id ∈ w''.registry.live, Late w w'' id := by
  intro id hid
  obtain ⟨d', hd', hlive⟩ := h.departures n _ hd
  obtain rfl := Option.some.inj (hr.symm.trans hd')
  -- A call that has returned in time spares nobody, so whoever was there at that moment was late.
  obtain ⟨d'', -, hlive'⟩ := h'.departures n _ hr
  rcases hlive' id hid with ⟨hmem, -⟩ | hlate
  · rcases hlive id hmem with ⟨-, hspares⟩ | hlate
    · have hfalse : true = false := hspares trivial
      cases hfalse
    · exact hlate.mono h'
  · exact .of_onward h hlate

/-- Requests stay as they are. -/
theorem of_departures (h : w'.lobby.shuttingDown = true) (hup : w'.upgrades = w.upgrades)
    (hdep : ∀ (n : Nat) (d : Departure), w.departures[n]? = some d →
      ∃ d', w'.departures[n]? = some d' ∧ ∀ id ∈ w'.registry.live,
        id ∈ w.registry.live ∧ (d.Spares id → d'.Spares id)) : Onward w w' := by
  refine ⟨h, ?_, ?_, fun n d hd => ?_⟩
  · intro k session hk
    rwa [hup] at hk
  · intro k id hk
    rwa [hup]
  · obtain ⟨d', hd', hlive⟩ := hdep n d hd
    exact ⟨d', hd', fun id hid => .inl (hlive id hid)⟩

theorem request (h : w.lobby.shuttingDown = true) (route : Route) :
    Onward w { w with upgrades := w.upgrades ++ [.requested route] } := by
  refine ⟨h, fun k session hk => ?_, fun k id hk => ?_, fun n d hd => ?_⟩
  · rw [List.getElem?_append] at hk
    split_ifs at hk
    · exact hk
    · have hmem := List.mem_of_getElem? hk
      simp at hmem
  · exact (List.getElem?_append_left (List.getElem?_eq_some_iff.mp hk).1).trans hk
  · exact ⟨d, hd, fun id hid => .inl ⟨hid, fun hs => hs⟩⟩

theorem upgrade (h : w.lobby.shuttingDown = true) (k : Nat) (id : ConnectionId) (clock : Nat) :
    Onward w (w.upgrade k id clock) := by
  cases hu : w.upgrades[k]? with
  | none =>
    simp only [Reception.upgrade, hu]
    exact refl h
  | some u =>
    obtain ⟨hlt, -⟩ := List.getElem?_eq_some_iff.mp hu
    simp only [Reception.upgrade, hu]
    refine ⟨h, fun j session hj => ?_, fun j id' hj => ?_, fun n d hd => ⟨d, hd, fun id' hid' => ?_⟩⟩
    · by_cases hk : k = j
      · subst hk
        rw [List.getElem?_set_self hlt] at hj
        exact absurd (Option.some.inj hj) (u.advance_ne_admitted h session)
      · rwa [List.getElem?_set_ne hk] at hj
    · by_cases hk : k = j
      · subst hk
        obtain rfl := Option.some.inj (hu.symm.trans hj)
        exact List.getElem?_set_self hlt
      · rwa [List.getElem?_set_ne hk]
    · rcases u.advance_live hid' with hmem | ⟨⟨session, rfl⟩, hregistered⟩
      · exact .inl ⟨hmem, fun hs => hs⟩
      · refine .inr ⟨k, session, hu, ?_⟩
        rw [← hregistered]
        exact List.getElem?_set_self hlt

theorem depart (h : w.lobby.shuttingDown = true) (m : Nat) (tasksEnded : Bool) :
    Onward w (w.depart m tasksEnded) := by
  cases hd : w.departures[m]? with
  | none =>
    simp only [Reception.depart, hd]
    exact refl h
  | some d =>
    obtain ⟨hlt, -⟩ := List.getElem?_eq_some_iff.mp hd
    simp only [Reception.depart, hd]
    refine of_departures (d.advance_shuttingDown h) rfl fun n e he => ?_
    by_cases hn : m = n
    · subst hn
      obtain rfl := Option.some.inj (hd.symm.trans he)
      exact ⟨_, List.getElem?_set_self hlt, fun id hid => d.advance_live hid⟩
    · refine ⟨e, (List.getElem?_set_ne hn).trans he, fun id hid => ⟨?_, fun hs => hs⟩⟩
      exact (d.advance_live hid).1

theorem of_step (h : w.lobby.shuttingDown = true) (hs : Step w w') : Onward w w' := by
  cases hs with
  | request route => exact request h route
  | upgrade k id clock => exact upgrade h k id clock
  | depart n tasksEnded => exact depart h n tasksEnded
  | call =>
    refine of_departures h rfl fun n d hd => ⟨d, ?_, fun id hid => ⟨hid, fun hs => hs⟩⟩
    exact (List.getElem?_append_left (List.getElem?_eq_some_iff.mp hd).1).trans hd
  | giveUp m stage hm =>
    refine of_departures h rfl fun n d hd => ?_
    have hlive : ∀ id ∈ (stage.abandon w.registry).live, id ∈ w.registry.live := by
      intro id hid
      rwa [ShutdownStage.abandon_live] at hid
    obtain ⟨hlt, -⟩ := List.getElem?_eq_some_iff.mp hd
    by_cases hn : m = n
    · subst hn
      refine ⟨.returned false, List.getElem?_set_self hlt, fun id hid => ⟨hlive id hid, fun _ => rfl⟩⟩
    · refine ⟨d, (List.getElem?_set_ne hn).trans hd, fun id hid => ⟨hlive id hid, fun hs => hs⟩⟩
  | signal =>
    exact of_departures rfl rfl fun n d hd => ⟨d, hd, fun id hid => ⟨hid, fun hs => hs⟩⟩
  | leave id =>
    refine of_departures h rfl fun n d hd => ⟨d, hd, fun j hj => ⟨?_, fun hs => hs⟩⟩
    exact (Registry.mem_unregister rfl hj).1
  | inside r hr =>
    refine of_departures h rfl fun n d hd => ⟨d, hd, fun id hid => ⟨?_, fun hs => hs⟩⟩
    exact hr ▸ hid

theorem of_later (h : w.lobby.shuttingDown = true) (hlater : Later w w') : Onward w w' := by
  induction hlater with
  | refl => exact refl h
  | tail _ hs ih => exact ih.trans (of_step ih.refusing hs)

end Onward

/-- A call that goes on has made the server refuse requests. -/
def Announced (w : Reception) : Prop :=
  ∀ d ∈ w.departures, d ≠ .called → w.lobby.shuttingDown = true

theorem Announced.of_refusing (h : w.lobby.shuttingDown = true) : w.Announced := fun _ _ _ => h

theorem Announced.step (h : w.Announced) (hs : Step w w') : w'.Announced := by
  by_cases hrefusing : w.lobby.shuttingDown = true
  · exact .of_refusing (Onward.of_step hrefusing hs).refusing
  · have hcalled : ∀ d ∈ w.departures, d = .called := by
      intro d hd
      by_contra hne
      exact hrefusing (h d hd hne)
    cases hs with
    | request route => exact h
    | upgrade k id clock =>
      cases hu : w.upgrades[k]? with
      | none =>
        simp only [Reception.upgrade, hu]
        exact h
      | some u =>
        simp only [Reception.upgrade, hu]
        exact h
    | call =>
      intro d hd hne
      rcases List.mem_append.mp hd with hd | hd
      · exact h d hd hne
      · exact absurd (List.mem_singleton.mp hd) hne
    | depart n tasksEnded =>
      cases hd : w.departures[n]? with
      | none =>
        simp only [Reception.depart, hd]
        exact h
      | some d =>
        obtain rfl := hcalled d (List.mem_of_getElem? hd)
        refine .of_refusing ?_
        simp only [Reception.depart, hd, Departure.advance]
    | giveUp n stage hd =>
      have hfirst := hcalled _ (List.mem_of_getElem? hd)
      cases hfirst
    | signal => exact .of_refusing rfl
    | leave id => exact h
    | inside r hr => exact h

theorem Announced.of_reachable {config : RegistryConfig} {capacity : Nat} {hasMetrics : Bool}
    (h : Reachable config capacity hasMetrics w) : w.Announced := by
  induction h with
  | refl =>
    intro d hd
    cases hd
  | tail _ hs ih => exact ih.step hs

theorem later_departs (n : Nat) (tasksEnded : List Bool) (w : Reception) :
    Later w (tasksEnded.foldl (depart · n) w) := by
  induction tasksEnded generalizing w with
  | nil => exact .refl
  | cons t ts ih => exact .head (.depart w n t) (ih (w.depart n t))

theorem step_deliver (w : Reception) : Step w { w with registry := w.registry.deliver } :=
  .inside w w.registry.deliver rfl

/-- Whatever calls do to connections is done in steps of this kind. -/
theorem later_changes (w : Reception) {r : Registry} (h : w.registry.Changes r) :
    Later w { w with registry := r } := by
  induction h with
  | refl => exact .refl
  | @tail r₁ r₂ _ hs ih =>
    refine ih.tail ?_
    cases hs with
    | unregister id => exact .leave { w with registry := r₁ } id
    | bus | within | adopt => exact .inside { w with registry := r₁ } _ rfl
    | disown id f =>
      refine .inside { w with registry := r₁ } _ ?_
      obtain hd | ⟨c, sub, -, -, hd⟩ := Registry.disown_cases r₁ id f
      · rw [hd]
      · rw [hd]
        rfl
    | disownAll id =>
      refine .inside { w with registry := r₁ } _ ?_
      unfold Registry.disownAll
      split <;> rfl

/-- Once a call to shut down was in time, every connection belongs to a request that had been let in, and
was no connection yet, when the call made the server refuse requests. If there was no such request,
nobody is there and nobody comes. -/
theorem live_of_returned {config : RegistryConfig} {capacity : Nat} {hasMetrics : Bool}
    (h : Reachable config capacity hasMetrics w) (hd : w.departures[n]? = some .signalled)
    (hlater : Later w w') (hreturned : w'.departures[n]? = some (.returned true)) :
    ∀ w'', Later w' w'' →
      (∀ id ∈ w''.registry.live, Late w w'' id) ∧
      ((∀ session, .admitted session ∉ w.upgrades) → w''.registry.live = []) := by
  intro w'' hlater'
  have hrefusing : w.lobby.shuttingDown = true :=
    Announced.of_reachable h .signalled (List.mem_of_getElem? hd) (by simp)
  have honward : Onward w w' := .of_later hrefusing hlater
  have honward' : Onward w' w'' := .of_later honward.refusing hlater'
  have hlate : ∀ id ∈ w''.registry.live, Late w w'' id :=
    honward.late_of_returned honward' hd hreturned
  refine ⟨hlate, fun hnone => ?_⟩
  refine List.eq_nil_iff_forall_not_mem.mpr fun id hid => ?_
  obtain ⟨k, session, hk, -⟩ := hlate id hid
  exact hnone session (List.mem_of_getElem? hk)

/-- Two connections are there when the call begins. One of them leaves by itself while the other is
being closed, and a request that comes then is refused. -/
theorem live_of_returned_refused :
    ∃ w w', Reachable {} 4 false w ∧ w.departures = [.signalled] ∧
      w.upgrades = [.registered ⟨"a"⟩, .registered ⟨"b"⟩] ∧ w.registry.live = [⟨"a"⟩, ⟨"b"⟩] ∧
      Later w w' ∧ w'.departures = [.returned true] ∧
      w'.upgrades = [.registered ⟨"a"⟩, .registered ⟨"b"⟩, .refused .unavailable] ∧
      ∀ w'', Later w' w'' → w''.registry.live = [] := by
  obtain ⟨w, hreach, hd, hup, hlive, w', hlater, hd', hup'⟩ : ∃ w, Reachable {} 4 false w ∧
      w.departures = [.signalled] ∧ w.upgrades = [.registered ⟨"a"⟩, .registered ⟨"b"⟩] ∧
      w.registry.live = [⟨"a"⟩, ⟨"b"⟩] ∧ ∃ w', Later w w' ∧ w'.departures = [.returned true] ∧
      w'.upgrades = [.registered ⟨"a"⟩, .registered ⟨"b"⟩, .refused .unavailable] := by
    have hfirst : Reachable {} 4 false _ := ((Relation.ReflTransGen.refl.tail
      (.request _ (.socket []))).tail (.upgrade _ 0 ⟨"a"⟩ 0 rfl)).tail (.upgrade _ 0 ⟨"a"⟩ 0 rfl)
    have hsecond := ((hfirst.tail (.request _ (.socket ["s"]))).tail
      (.upgrade _ 1 ⟨"b"⟩ 0 (by decide +kernel))).tail (.upgrade _ 1 ⟨"b"⟩ 0 (by decide +kernel))
    have hsignalled := (hsecond.tail (.call _)).trans (later_departs 0 [true] _)
    refine ⟨_, hsignalled, ?_, ?_, ?_, ?_⟩
    · decide +kernel
    · decide +kernel
    · decide +kernel
    · have hleft := fun w : Reception => (later_departs 0 [true] w).trans (later_changes _
        (Registry.Call.changes (.close ⟨"b"⟩ .called) _ fun _ => false))
      have hrefused := fun (w : Reception) hf => ((hleft w).tail (.request _ (.socket []))).tail
        (.upgrade _ 2 ⟨"c"⟩ 0 hf)
      have hdraining := fun (w : Reception) hf => (hrefused w hf).trans
        (later_departs 0 [true, true, true, true] _)
      have hreturned := fun (w : Reception) hf => ((hdraining w hf).tail (step_deliver _)).trans
        (later_departs 0 [true, true, true, true] _)
      refine ⟨_, hreturned _ ?_, ?_, ?_⟩
      · decide +kernel
      · decide +kernel
      · decide +kernel
  refine ⟨w, w', hreach, hd, hup, hlive, hlater, hd', hup', fun w'' hlater' => ?_⟩
  refine (live_of_returned (n := 0) hreach ?_ hlater ?_ w'' hlater').2 ?_
  · rw [hd]
    rfl
  · rw [hd']
    rfl
  · rw [hup]
    simp

/-- A connection comes after a shutdown that was in time. Its request was let in before. -/
theorem live_after_returned :
    ∃ w w', Reachable {} 4 false w ∧ w.departures = [.returned true] ∧ w.registry.live = [] ∧
      Later w w' ∧ w'.departures = [.returned true] ∧ w'.registry.live = [⟨"a"⟩] := by
  have hadmitted : Reachable {} 4 false _ := (Relation.ReflTransGen.refl.tail
    (.request _ (.socket []))).tail (.upgrade _ 0 ⟨"a"⟩ 0 rfl)
  have hdraining := (hadmitted.tail (.call _)).trans (later_departs 0 [true, true, true] _)
  have hreturned := (hdraining.tail (step_deliver _)).trans
    (later_departs 0 [true, true, true, true] _)
  refine ⟨_, _, hreturned, ?_, ?_, .single (.upgrade _ 0 ⟨"a"⟩ 0 ?_), ?_, ?_⟩
  · decide +kernel
  · decide +kernel
  · rfl
  · decide +kernel
  · decide +kernel

end Reception

end Fanout
