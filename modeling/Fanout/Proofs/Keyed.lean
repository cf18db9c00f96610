import Fanout.Keyed
import Mathlib.Data.List.Nodup

/-! Lookup, change and removal in lists of pairs in which every key stands at most once. -/
namespace Fanout.Keyed

variable {κ α : Type} {k k' : κ} {a b : α} {m l r : List (κ × α)}

theorem mem_keys_of_mem (h : (k, a) ∈ m) : k ∈ keys m := List.mem_map.mpr ⟨(k, a), h, rfl⟩

theorem keys_append : keys (l ++ r) = keys l ++ keys r := List.map_append

theorem keys_filter_sublist (p : κ × α → Bool) : (keys (m.filter p)).Sublist (keys m) :=
  List.filter_sublist.map _

variable [DecidableEq κ]

theorem get?_eq_none_iff : get? k m = none ↔ k ∉ keys m := by
  induction m with
  | nil => simp [get?, keys]
  | cons p rest ih =>
    obtain ⟨k', a'⟩ := p
    by_cases h : k' = k
    · simp [get?, keys, h]
    · have h' : ¬ k = k' := fun he => h he.symm
      simpa [get?, keys, h, h'] using ih

theorem mem_of_get?_eq_some (h : get? k m = some a) : (k, a) ∈ m := by
  induction m with
  | nil => simp [get?] at h
  | cons p rest ih =>
    obtain ⟨k', a'⟩ := p
    by_cases hk : k' = k
    · have : a' = a := by simpa [get?, hk] using h
      simp [hk, this]
    · exact List.mem_cons_of_mem _ (ih (by simpa [get?, hk] using h))

theorem mem_keys_iff : k ∈ keys m ↔ ∃ a, get? k m = some a := by
  rw [← Option.ne_none_iff_exists', ne_eq, get?_eq_none_iff, not_not]

theorem contains_iff : contains k m = true ↔ k ∈ keys m := by
  rw [contains, Option.isSome_iff_exists, mem_keys_iff]

/-- With distinct keys the members are exactly what a lookup finds. -/
theorem get?_eq_some_iff (hm : (keys m).Nodup) : get? k m = some a ↔ (k, a) ∈ m := by
  refine ⟨mem_of_get?_eq_some, fun h => ?_⟩
  induction m with
  | nil => simp at h
  | cons p rest ih =>
    obtain ⟨k', a'⟩ := p
    obtain ⟨hk', hrest⟩ : k' ∉ keys rest ∧ (keys rest).Nodup := by simpa [keys] using hm
    rcases List.mem_cons.mp h with he | hr
    · obtain ⟨rfl, rfl⟩ := Prod.mk.inj he
      simp [get?]
    · have hne : k' ≠ k := fun he => hk' (he ▸ mem_keys_of_mem hr)
      simpa [get?, hne] using ih hrest hr

theorem exists_split (h : get? k m = some a) : ∃ l r, m = l ++ (k, a) :: r ∧ k ∉ keys l := by
  induction m with
  | nil => simp [get?] at h
  | cons p rest ih =>
    obtain ⟨k', a'⟩ := p
    by_cases hk : k' = k
    · have ha : a' = a := by simpa [get?, hk] using h
      exact ⟨[], rest, by simp [hk, ha], by simp [keys]⟩
    · obtain ⟨l, r, hlr, hl⟩ := ih (by simpa [get?, hk] using h)
      refine ⟨(k', a') :: l, r, by simp [hlr], ?_⟩
      simpa [keys, Ne.symm hk] using hl

theorem put_split (h : k ∉ keys l) : put k b (l ++ (k, a) :: r) = l ++ (k, b) :: r := by
  induction l with
  | nil => simp [put]
  | cons p rest ih =>
    obtain ⟨hne, hr⟩ : k ≠ p.1 ∧ k ∉ keys rest := by simpa [keys] using h
    simp [put, Ne.symm hne, ih hr]

theorem erase_split (h : k ∉ keys l) : erase k (l ++ (k, a) :: r) = l ++ r := by
  induction l with
  | nil => simp [erase]
  | cons p rest ih =>
    obtain ⟨hne, hr⟩ : k ≠ p.1 ∧ k ∉ keys rest := by simpa [keys] using h
    simp [erase, Ne.symm hne, ih hr]

theorem perm_cons_erase (h : get? k m = some a) : m.Perm ((k, a) :: erase k m) := by
  obtain ⟨l, r, rfl, hl⟩ := exists_split h
  rw [erase_split hl]
  exact List.perm_middle

theorem put_of_not_mem (h : k ∉ keys m) : put k a m = m ++ [(k, a)] := by
  induction m with
  | nil => simp [put]
  | cons p rest ih =>
    obtain ⟨hne, hr⟩ : k ≠ p.1 ∧ k ∉ keys rest := by simpa [keys] using h
    simp [put, Ne.symm hne, ih hr]

theorem keys_put : keys (put k a m) = if k ∈ keys m then keys m else keys m ++ [k] := by
  by_cases h : k ∈ keys m
  · obtain ⟨b, hb⟩ := mem_keys_iff.mp h
    obtain ⟨l, r, rfl, hl⟩ := exists_split hb
    rw [put_split hl, if_pos h]
    simp [keys]
  · rw [put_of_not_mem h, if_neg h, keys_append]
    rfl

theorem mem_put {p : κ × α} (h : p ∈ put k a m) : p = (k, a) ∨ p ∈ m := by
  induction m with
  | nil => exact .inl (List.mem_singleton.mp h)
  | cons q rest ih =>
    by_cases hq : q.1 = k
    · rcases List.mem_cons.mp (by simpa [put, hq] using h) with rfl | hr
      · exact .inl rfl
      · exact .inr (List.mem_cons_of_mem _ hr)
    · rcases List.mem_cons.mp (by simpa [put, hq] using h) with rfl | hr
      · exact .inr List.mem_cons_self
      · exact (ih hr).imp_right (List.mem_cons_of_mem _)

theorem nodup_keys_put (hm : (keys m).Nodup) : (keys (put k a m)).Nodup := by
  rw [keys_put]
  split_ifs with h
  · exact hm
  · simpa using List.Nodup.concat h hm

theorem mem_of_mem_erase {p : κ × α} (h : p ∈ erase k m) : p ∈ m := by
  induction m with
  | nil => simp [erase] at h
  | cons q rest ih =>
    by_cases hq : q.1 = k
    · exact List.mem_cons_of_mem _ (by simpa [erase, hq] using h)
    · rcases List.mem_cons.mp (by simpa [erase, hq] using h) with rfl | hr
      · exact List.mem_cons_self
      · exact List.mem_cons_of_mem _ (ih hr)

/-- With distinct keys removing a key leaves all pairs under the others. -/
theorem erase_eq_filter (hm : (keys m).Nodup) : erase k m = m.filter fun p => p.1 ≠ k := by
  induction m with
  | nil => rfl
  | cons p rest ih =>
    obtain ⟨hp, hrest⟩ : p.1 ∉ keys rest ∧ (keys rest).Nodup := by simpa [keys] using hm
    by_cases hk : p.1 = k
    · have hall : rest.filter (fun q => q.1 ≠ k) = rest := by
        refine List.filter_eq_self.mpr fun q hq => ?_
        have : q.1 ≠ k := fun he => hp (hk ▸ he ▸ mem_keys_of_mem hq)
        simpa using this
      rw [List.filter_cons_of_neg (by simp [hk]), hall]
      simp [erase, hk]
    · simp [erase, hk, ih hrest]

theorem nodup_keys_erase (hm : (keys m).Nodup) : (keys (erase k m)).Nodup := by
  rw [erase_eq_filter hm]
  exact (keys_filter_sublist _).nodup hm

theorem not_mem_keys_erase (hm : (keys m).Nodup) : k ∉ keys (erase k m) := by
  rw [erase_eq_filter hm]
  intro hk
  obtain ⟨p, hp, rfl⟩ := List.mem_map.mp hk
  have hne := (List.mem_filter.mp hp).2
  simp at hne

theorem get?_erase_of_ne (h : k' ≠ k) : get? k' (erase k m) = get? k' m := by
  induction m with
  | nil => rfl
  | cons p rest ih =>
    obtain ⟨j, a⟩ := p
    by_cases hj : j = k
    · simp [erase, get?, hj, Ne.symm h]
    · by_cases hj' : j = k'
      · simp [erase, get?, hj', h]
      · simp [erase, get?, hj, hj', ih]

@[simp] theorem keys_modify (f : α → α) : keys (modify k f m) = keys m := by
  induction m with
  | nil => rfl
  | cons p rest ih =>
    by_cases h : p.1 = k
    · simp [modify, keys, h]
    · simpa [modify, keys, h] using ih

theorem get?_modify (f : α → α) :
    get? k' (modify k f m) = if k' = k then (get? k' m).map f else get? k' m := by
  induction m with
  | nil => simp [modify, get?]
  | cons p rest ih =>
    obtain ⟨j, a⟩ := p
    by_cases hj : j = k
    · by_cases hk : k' = k
      · simp [modify, get?, hj, hk]
      · simp [modify, get?, hj, hk, Ne.symm hk]
    · by_cases hk' : j = k'
      · have hne : k' ≠ k := hk' ▸ hj
        simp [modify, get?, hk', hne]
      · simp [modify, get?, hj, hk', ih]

theorem get?_put_self : get? k (put k a m) = some a := by
  induction m with
  | nil => simp [put, get?]
  | cons p rest ih =>
    by_cases h : p.1 = k
    · simp [put, get?, h]
    · simp [put, get?, h, ih]

theorem get?_put_of_ne (h : k' ≠ k) : get? k' (put k a m) = get? k' m := by
  induction m with
  | nil => simp [put, get?, Ne.symm h]
  | cons p rest ih =>
    by_cases hp : p.1 = k
    · simp [put, get?, hp, Ne.symm h]
    · simp [put, get?, hp, ih]

end Fanout.Keyed
