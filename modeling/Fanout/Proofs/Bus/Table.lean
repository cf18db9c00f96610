import Fanout.Bus.Table
import Fanout.Proofs.Keyed

/-!
The subscription table as a plain list of rows, one to a subscription. Grouping by filter and the map
from subscriptions to filters both stay in step with the rows.
-/
namespace Fanout.SubscriptionTable

variable {H : Type}

def ungroup (entries : List (Filter × List (Subscriber H))) : List (Filter × Subscriber H) :=
  entries.flatMap fun p => p.2.map fun s => (p.1, s)

def rows (t : SubscriptionTable H) : List (Filter × Subscriber H) := ungroup t.entries

def ids (t : SubscriptionTable H) : List SubscriptionId := Keyed.keys t.owners

/-- Both maps of a table tell the same, and neither holds anything twice. -/
structure WellFormed (t : SubscriptionTable H) : Prop where
  ids_nodup : t.ids.Nodup
  filters_nodup : (Keyed.keys t.entries).Nodup
  owners_perm : t.owners.Perm (t.rows.map fun p => (p.2.id, p.1))
  no_empty_entry : ∀ p ∈ t.entries, p.2 ≠ []

theorem ungroup_append (l r : List (Filter × List (Subscriber H))) :
    ungroup (l ++ r) = ungroup l ++ ungroup r := List.flatMap_append

theorem ungroup_cons (p : Filter × List (Subscriber H)) (r : List (Filter × List (Subscriber H))) :
    ungroup (p :: r) = (p.2.map fun s => (p.1, s)) ++ ungroup r := List.flatMap_cons

theorem filter_mem_of_mem_ungroup {entries : List (Filter × List (Subscriber H))}
    {p : Filter × Subscriber H} (h : p ∈ ungroup entries) : p.1 ∈ Keyed.keys entries := by
  obtain ⟨q, hq, hp⟩ := List.mem_flatMap.mp h
  obtain ⟨s, -, rfl⟩ := List.mem_map.mp hp
  exact Keyed.mem_keys_of_mem hq

theorem targets_eq (t : SubscriptionTable H) (e : Event) :
    t.targets e = (t.rows.filter fun p => p.1.accepts e).map fun p => (p.2.id, p.2.handler) := by
  unfold targets rows
  induction t.entries with
  | nil => rfl
  | cons p rest ih =>
    have hp : (p.2.map fun s => (p.1, s)).filter (fun q => q.1.accepts e) =
        if p.1.accepts e then p.2.map fun s => (p.1, s) else [] := by
      split_ifs with h <;> simp [h]
    rw [ungroup_cons, List.filter_append, List.map_append, ← ih, hp]
    by_cases h : p.1.accepts e <;> simp [h]

theorem owners_insert {t : SubscriptionTable H} {s : Subscriber H} (hs : s.id ∉ t.ids)
    (f : Filter) : (t.insert f s).owners = t.owners ++ [(s.id, f)] := Keyed.put_of_not_mem hs

theorem rows_insert (t : SubscriptionTable H) (f : Filter) (s : Subscriber H) :
    (t.insert f s).rows.Perm (t.rows ++ [(f, s)]) := by
  unfold insert rows
  cases hg : Keyed.get? f t.entries with
  | none =>
    rw [Keyed.put_of_not_mem (Keyed.get?_eq_none_iff.mp hg)]
    simp [ungroup]
  | some ss =>
    obtain ⟨l, r, he, hl⟩ := Keyed.exists_split hg
    rw [he, Keyed.put_split hl]
    simp only [Option.getD_some, ungroup_append, ungroup_cons, List.map_append, List.map_cons,
      List.map_nil, List.append_assoc]
    exact (List.perm_append_comm.append_left _).append_left _

/-- A group keeps its rows but those of one subscriber; a group left empty has none. -/
theorem ungroup_withoutSubscriber {entries : List (Filter × List (Subscriber H))}
    (hn : (Keyed.keys entries).Nodup) (f : Filter) (id : SubscriptionId) :
    ungroup (withoutSubscriber f id entries) =
      (ungroup entries).filter fun p => ¬ (p.1 = f ∧ p.2.id = id) := by
  unfold withoutSubscriber
  cases hg : Keyed.get? f entries with
  | none =>
    refine (List.filter_eq_self.mpr fun p hp => ?_).symm
    have hf : p.1 ≠ f := fun he =>
      Keyed.get?_eq_none_iff.mp hg (he ▸ filter_mem_of_mem_ungroup hp)
    simp [hf]
  | some ss =>
    obtain ⟨l, r, rfl, hl⟩ := Keyed.exists_split hg
    have hr : f ∉ Keyed.keys r := by
      have := (List.nodup_middle.mp (by simpa [Keyed.keys] using hn)).notMem
      exact fun h => this (List.mem_append_right _ h)
    have hkeep : ∀ m : List (Filter × List (Subscriber H)), f ∉ Keyed.keys m →
        (ungroup m).filter (fun p => ¬ (p.1 = f ∧ p.2.id = id)) = ungroup m := by
      refine fun m hm => List.filter_eq_self.mpr fun p hp => ?_
      have hf : p.1 ≠ f := fun he => hm (he ▸ filter_mem_of_mem_ungroup hp)
      simp [hf]
    have hgroup : (ss.map fun s => (f, s)).filter (fun p => ¬ (p.1 = f ∧ p.2.id = id)) =
        (ss.filter fun s => s.id ≠ id).map fun s => (f, s) := by
      rw [List.filter_map]
      congr 1
      simp [Function.comp_def]
    rw [ungroup_append, ungroup_cons, List.filter_append, List.filter_append, hkeep l hl,
      hkeep r hr, hgroup]
    dsimp only
    split
    · rename_i hs
      rw [Keyed.erase_split hl, ungroup_append, hs]
      rfl
    · rw [Keyed.put_split hl, ungroup_append, ungroup_cons]

theorem nodup_keys_withoutSubscriber {entries : List (Filter × List (Subscriber H))}
    {f : Filter} {id : SubscriptionId} (hn : (Keyed.keys entries).Nodup) :
    (Keyed.keys (withoutSubscriber f id entries)).Nodup := by
  unfold withoutSubscriber
  split
  · exact hn
  · split
    · exact Keyed.nodup_keys_erase hn
    · exact Keyed.nodup_keys_put hn

theorem no_empty_withoutSubscriber {entries : List (Filter × List (Subscriber H))}
    {f : Filter} {id : SubscriptionId} (hn : ∀ p ∈ entries, p.2 ≠ []) :
    ∀ p ∈ withoutSubscriber f id entries, p.2 ≠ [] := by
  intro p hp
  unfold withoutSubscriber at hp
  split at hp
  · exact hn p hp
  · split at hp
    · exact hn p (Keyed.mem_of_mem_erase hp)
    · rename_i hne
      rcases Keyed.mem_put hp with rfl | ho
      · exact hne
      · exact hn p ho

theorem wellFormed_empty : ({} : SubscriptionTable H).WellFormed :=
  ⟨List.nodup_nil, List.nodup_nil, .refl _, by simp⟩

namespace WellFormed

variable {t : SubscriptionTable H}

theorem mem_owners_iff (h : t.WellFormed) {id : SubscriptionId} {f : Filter} :
    (id, f) ∈ t.owners ↔ ∃ s, (f, s) ∈ t.rows ∧ s.id = id := by
  rw [h.owners_perm.mem_iff, List.mem_map]
  constructor
  · rintro ⟨⟨g, s⟩, hp, he⟩
    obtain ⟨rfl, rfl⟩ := Prod.mk.inj he
    exact ⟨s, hp, rfl⟩
  · rintro ⟨s, hs, rfl⟩
    exact ⟨(f, s), hs, rfl⟩

/-- The filter noted for a subscription is that of its row. -/
theorem get?_owners_iff (h : t.WellFormed) {id : SubscriptionId} {f : Filter} :
    Keyed.get? id t.owners = some f ↔ ∃ s, (f, s) ∈ t.rows ∧ s.id = id :=
  (Keyed.get?_eq_some_iff h.ids_nodup).trans h.mem_owners_iff

theorem ids_perm (h : t.WellFormed) : t.ids.Perm (t.rows.map fun p => p.2.id) := by
  have := h.owners_perm.map Prod.fst
  simpa [ids, Keyed.keys, Function.comp_def] using this

theorem row_ids_nodup (h : t.WellFormed) : (t.rows.map fun p => p.2.id).Nodup :=
  h.ids_perm.nodup_iff.mp h.ids_nodup

/-- A subscription has one row. -/
theorem filter_rows_id (h : t.WellFormed) {p : Filter × Subscriber H} (hp : p ∈ t.rows) :
    (t.rows.filter fun q => q.2.id = p.2.id) = [p] := by
  have hn := h.row_ids_nodup
  revert hp hn
  induction t.rows with
  | nil => simp
  | cons q rest ih =>
    intro hp hn
    rw [List.map_cons] at hn
    obtain ⟨hq, hrest⟩ := List.nodup_cons.mp hn
    rcases List.mem_cons.mp hp with rfl | hr
    · have hnone : (rest.filter fun q => q.2.id = p.2.id) = [] := by
        refine List.filter_eq_nil_iff.mpr fun q hm he => hq ?_
        exact List.mem_map.mpr ⟨q, hm, by simpa using he⟩
      rw [List.filter_cons_of_pos (by simp), hnone]
    · have hne : q.2.id ≠ p.2.id := fun he => hq (List.mem_map.mpr ⟨p, hr, he.symm⟩)
      rw [List.filter_cons_of_neg (by simpa using hne), ih hr hrest]

theorem mem_ids_iff (h : t.WellFormed) {id : SubscriptionId} :
    id ∈ t.ids ↔ ∃ p ∈ t.rows, p.2.id = id := by
  rw [h.ids_perm.mem_iff, List.mem_map]

/-- Under its own filter stands the only row of a subscription. -/
theorem rows_withoutSubscriber (h : t.WellFormed) {id : SubscriptionId} {f : Filter}
    (hf : Keyed.get? id t.owners = some f) :
    ungroup (withoutSubscriber f id t.entries) = t.rows.filter fun p => p.2.id ≠ id := by
  rw [ungroup_withoutSubscriber h.filters_nodup]
  refine List.filter_congr fun p hp => ?_
  have hfilter : p.2.id = id → p.1 = f := fun he => by
    have := h.get?_owners_iff.mpr ⟨p.2, hp, he⟩
    exact Option.some.inj (this.symm.trans hf)
  by_cases he : p.2.id = id
  · simp [he, hfilter he]
  · simp [he]

theorem insert (h : t.WellFormed) {s : Subscriber H} (hs : s.id ∉ t.ids) (f : Filter) :
    (t.insert f s).WellFormed := by
  have howners := owners_insert hs f
  refine ⟨Keyed.nodup_keys_put h.ids_nodup, Keyed.nodup_keys_put h.filters_nodup, ?_, ?_⟩
  · rw [howners]
    refine .trans ?_ ((rows_insert t f s).map _).symm
    rw [List.map_append]
    exact h.owners_perm.append (.refl _)
  · intro p hp
    rcases Keyed.mem_put hp with rfl | ho
    · simp
    · exact h.no_empty_entry p ho

theorem remove (h : t.WellFormed) (id : SubscriptionId) : (t.remove id).2.WellFormed := by
  unfold SubscriptionTable.remove
  cases hf : Keyed.get? id t.owners with
  | none => exact h
  | some f =>
    refine ⟨Keyed.nodup_keys_erase h.ids_nodup, ?_, ?_, ?_⟩
    · exact nodup_keys_withoutSubscriber h.filters_nodup
    · change (Keyed.erase id t.owners).Perm
        ((ungroup (withoutSubscriber f id t.entries)).map fun p => (p.2.id, p.1))
      rw [Keyed.erase_eq_filter h.ids_nodup, h.rows_withoutSubscriber hf]
      refine (h.owners_perm.filter _).trans ?_
      rw [List.filter_map]
      exact .refl _
    · exact no_empty_withoutSubscriber h.no_empty_entry

/-- Exactly the row of the subscription goes. -/
theorem rows_remove (h : t.WellFormed) (id : SubscriptionId) :
    (t.remove id).2.rows = t.rows.filter fun p => p.2.id ≠ id := by
  unfold SubscriptionTable.remove
  cases hf : Keyed.get? id t.owners with
  | none =>
    refine (List.filter_eq_self.mpr fun p hp => ?_).symm
    have hne : p.2.id ≠ id := fun he =>
      Keyed.get?_eq_none_iff.mp hf (h.mem_ids_iff.mpr ⟨p, hp, he⟩)
    simpa using hne
  | some f => exact h.rows_withoutSubscriber hf

theorem clear (t : SubscriptionTable H) : t.clear.WellFormed :=
  ⟨List.nodup_nil, List.nodup_nil, .refl _, by simp [SubscriptionTable.clear]⟩

/-- In which order the filters stand does not matter. -/
theorem reorder (h : t.WellFormed) {entries : List (Filter × List (Subscriber H))}
    (hp : entries.Perm t.entries) : ({ t with entries } : SubscriptionTable H).WellFormed where
  ids_nodup := h.ids_nodup
  filters_nodup := (hp.map Prod.fst).nodup_iff.mpr h.filters_nodup
  owners_perm := h.owners_perm.trans ((hp.flatMap_right _).map _).symm
  no_empty_entry := fun p hm => h.no_empty_entry p (hp.mem_iff.mp hm)

end WellFormed

end Fanout.SubscriptionTable
