import Fanout.Proofs.Bus.Journal

/-! The subscriptions of a bus against a list of them that is kept elsewhere. -/
namespace Fanout.Bus

variable {H : Type}

def grants (b : Bus H) : List (Grant H) := b.table.rows.map fun p => ⟨p.2.id, p.1, p.2.handler⟩

def grantsIn (t : SubscriptionTable H) : List (Grant H) :=
  t.rows.map fun p => ⟨p.2.id, p.1, p.2.handler⟩

theorem targets_eq_grants (t : SubscriptionTable H) (e : Event) :
    t.targets e =
      ((grantsIn t).filter fun g => g.filter.accepts e).map fun g => (g.id, g.handler) := by
  rw [t.targets_eq, grantsIn, List.filter_map, List.map_map]
  rfl

theorem unsubscribe_table (b : Bus H) (id : SubscriptionId) :
    (b.unsubscribe id).2.table = (b.table.remove id).2 := by
  unfold unsubscribe SubscriptionTable.remove
  cases Keyed.get? id b.table.owners <;> rfl

theorem unsubscribe_nextId (b : Bus H) (id : SubscriptionId) :
    (b.unsubscribe id).2.nextId = b.nextId := by
  rw [unsubscribe_eq]
  dsimp only
  split_ifs <;> rfl

theorem remove_closed (t : SubscriptionTable H) (id : SubscriptionId) :
    (t.remove id).2.closed = t.closed := by
  unfold SubscriptionTable.remove
  split <;> rfl

/-- A bus that is open has exactly the subscriptions in `held`. -/
structure Backs (b : Bus H) (held : List (Grant H)) : Prop where
  table : b.table.WellFormed
  not_closed : b.table.closed = false
  ids_below : ∀ id ∈ b.table.ids, id.number < b.nextId
  grants_perm : b.grants.Perm held

namespace Backs

variable {b b' : Bus H} {held held' : List (Grant H)} {g : Grant H}

theorem new (capacity : Nat) : Backs (Bus.new capacity : Bus H) [] :=
  ⟨SubscriptionTable.wellFormed_empty, rfl, by simp [Bus.new, SubscriptionTable.ids, Keyed.keys],
    .refl _⟩

theorem congr (h : Backs b held) (ht : b'.table = b.table) (hn : b'.nextId = b.nextId) :
    Backs b' held where
  table := ht ▸ h.table
  not_closed := ht ▸ h.not_closed
  ids_below := by simpa only [ht, hn] using h.ids_below
  grants_perm := by simpa only [grants, ht] using h.grants_perm

theorem perm (h : Backs b held) (hp : held.Perm held') : Backs b held' :=
  { h with grants_perm := h.grants_perm.trans hp }

theorem ids_perm (h : Backs b held) : b.table.ids.Perm (held.map Grant.id) := by
  refine h.table.ids_perm.trans ?_
  simpa [grants, Function.comp_def] using h.grants_perm.map Grant.id

theorem ids_nodup (h : Backs b held) : (held.map Grant.id).Nodup :=
  h.ids_perm.nodup_iff.mp h.table.ids_nodup

theorem isLive_iff (h : Backs b held) {id : SubscriptionId} :
    b.isLive id = true ↔ id ∈ held.map Grant.id :=
  Keyed.contains_iff.trans h.ids_perm.mem_iff

/-- What is held is in the table under its filter. -/
theorem owner (h : Backs b held) (hg : g ∈ held) :
    Keyed.get? g.id b.table.owners = some g.filter := by
  obtain ⟨p, hp, rfl⟩ := List.mem_map.mp (h.grants_perm.mem_iff.mpr hg)
  exact h.table.get?_owners_iff.mpr ⟨p.2, hp, rfl⟩

theorem subscriptions_eq (h : Backs b held) : b.stats.subscriptions = held.length := by
  have hl := h.ids_perm.length_eq
  simpa [SubscriptionTable.ids, Keyed.keys, stats, SubscriptionTable.size] using hl

theorem subscribe (h : Backs b held) {now : Time.Timestamp} {f : Filter} {handler : H}
    {id : SubscriptionId} (hs : b.subscribe now f handler = .ok (id, b')) :
    Backs b' (⟨id, f, handler⟩ :: held) := by
  obtain ⟨hc, rfl, rfl⟩ := subscribe_eq hs
  have hfresh : (⟨b.nextId⟩ : SubscriptionId) ∉ b.table.ids := fun hm =>
    Nat.lt_irrefl _ (h.ids_below _ hm)
  refine ⟨h.table.insert hfresh f, hc, ?_, ?_⟩
  · intro id hid
    change id.number < b.nextId + 1
    have hids : (b.table.insert f ⟨⟨b.nextId⟩, handler, now⟩).ids = b.table.ids ++ [⟨b.nextId⟩] :=
      (congrArg Keyed.keys (SubscriptionTable.owners_insert hfresh f)).trans Keyed.keys_append
    rcases List.mem_append.mp (hids ▸ hid) with ho | hn
    · exact Nat.lt_succ_of_lt (h.ids_below id ho)
    · rw [List.mem_singleton.mp hn]
      exact Nat.lt_succ_self _
  · have hrows := SubscriptionTable.rows_insert b.table f ⟨⟨b.nextId⟩, handler, now⟩
    refine (hrows.map _).trans ?_
    rw [List.map_append]
    exact List.perm_append_comm.trans (h.grants_perm.cons _)

theorem unsubscribe (h : Backs b (g :: held)) : Backs (b.unsubscribe g.id).2 held where
  table := by
    rw [unsubscribe_table]
    exact h.table.remove g.id
  not_closed := by
    rw [unsubscribe_table, remove_closed]
    exact h.not_closed
  ids_below := by
    intro id hid
    rw [unsubscribe_nextId]
    rw [unsubscribe_table, (h.table.remove g.id).mem_ids_iff, h.table.rows_remove] at hid
    obtain ⟨p, hp, hid⟩ := hid
    exact h.ids_below id (h.table.mem_ids_iff.mpr ⟨p, List.mem_of_mem_filter hp, hid⟩)
  grants_perm := by
    have hgrants : (b.unsubscribe g.id).2.grants = b.grants.filter fun x => x.id ≠ g.id := by
      rw [grants, unsubscribe_table, h.table.rows_remove, grants, List.filter_map]
      rfl
    have hothers : held.filter (fun x => x.id ≠ g.id) = held := by
      refine List.filter_eq_self.mpr fun x hx => ?_
      have hne : x.id ≠ g.id := fun he =>
        (List.nodup_cons.mp h.ids_nodup).1 (List.mem_map.mpr ⟨x, hx, he⟩)
      simpa using hne
    rw [hgrants]
    refine (h.grants_perm.filter _).trans ?_
    rw [List.filter_cons_of_neg (by simp), hothers]

end Backs

end Fanout.Bus
