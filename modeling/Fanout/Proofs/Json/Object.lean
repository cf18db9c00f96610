import Fanout.Json.Value
import Mathlib.Data.List.Nodup
import Mathlib.Data.String.Basic
import Mathlib.Tactic.SplitIfs

/-! Objects as lists of members by ascending key. -/
namespace Fanout.Json.Object

variable {o acc : Object} {key : String} {v : Value}

def Ascending (o : Object) : Prop := (o.map Prod.fst).Pairwise (· < ·)

theorem mem_of_mem_insert {m : String × Value} (h : m ∈ insert o key v) :
    m = (key, v) ∨ m ∈ o := by
  induction o with
  | nil => exact .inl (List.mem_singleton.mp h)
  | cons n rest ih =>
    unfold insert at h
    split_ifs at h
    · exact (List.mem_cons.mp h).imp_right (List.mem_cons_of_mem _)
    · exact List.mem_cons.mp h
    · rcases List.mem_cons.mp h with rfl | hr
      · exact .inr List.mem_cons_self
      · exact (ih hr).imp_right (List.mem_cons_of_mem _)

theorem ascending_insert (h : Ascending o) (key : String) (v : Value) :
    Ascending (insert o key v) := by
  induction o with
  | nil => exact List.pairwise_singleton _ _
  | cons n rest ih =>
    obtain ⟨hn, hrest⟩ := List.pairwise_cons.mp h
    unfold insert
    split_ifs with he hlt
    · exact List.pairwise_cons.mpr ⟨he ▸ hn, hrest⟩
    · refine List.pairwise_cons.mpr ⟨fun k hk => ?_, h⟩
      rcases List.mem_cons.mp hk with rfl | hk
      · exact hlt
      · exact lt_trans hlt (hn k hk)
    · refine List.pairwise_cons.mpr ⟨fun k hk => ?_, ih hrest⟩
      obtain ⟨m, hm, rfl⟩ := List.mem_map.mp hk
      rcases mem_of_mem_insert hm with rfl | hm
      · exact lt_of_le_of_ne (not_lt.mp hlt) he
      · exact hn _ (List.mem_map_of_mem hm)

theorem ascending_ofList (ms : List (String × Value)) : Ascending (ofList ms) := by
  have hfold : ∀ acc : Object, Ascending acc →
      Ascending (ms.foldl (fun o m => insert o m.1 m.2) acc) := by
    induction ms with
    | nil => exact fun _ h => h
    | cons m ms ih => exact fun acc h => ih _ (ascending_insert h m.1 m.2)
  exact hfold [] List.Pairwise.nil

theorem mem_of_mem_ofList {ms : List (String × Value)} {m : String × Value}
    (h : m ∈ ofList ms) : m ∈ ms := by
  have hfold : ∀ acc : Object, m ∈ ms.foldl (fun o n => insert o n.1 n.2) acc →
      m ∈ acc ∨ m ∈ ms := by
    clear h
    induction ms with
    | nil => exact fun _ hm => .inl hm
    | cons n ms ih =>
      intro acc hm
      rcases ih _ hm with hm | hm
      · rcases mem_of_mem_insert hm with rfl | hm
        · exact .inr List.mem_cons_self
        · exact .inl hm
      · exact .inr (List.mem_cons_of_mem _ hm)
  exact (hfold [] h).resolve_left List.not_mem_nil

theorem insert_of_lt (h : ∀ m ∈ o, m.1 < key) : insert o key v = o ++ [(key, v)] := by
  induction o with
  | nil => rfl
  | cons n rest ih =>
    have hn : n.1 < key := h n List.mem_cons_self
    unfold insert
    rw [if_neg (ne_of_lt hn), if_neg (not_lt_of_gt hn),
      ih fun m hm => h m (List.mem_cons_of_mem _ hm)]
    rfl

/-- Members that come in order are put down as they come. -/
theorem ofList_eq_self {ms : Object} (h : Ascending ms) : ofList ms = ms := by
  have hfold : ∀ acc : Object, Ascending (acc ++ ms) →
      ms.foldl (fun o m => insert o m.1 m.2) acc = acc ++ ms := by
    clear h
    induction ms with
    | nil => simp
    | cons m ms ih =>
      intro acc ha
      have hlt : ∀ n ∈ acc, n.1 < m.1 := by
        intro n hn
        rw [Ascending, List.map_append, List.pairwise_append] at ha
        exact ha.2.2 _ (List.mem_map_of_mem hn) _ List.mem_cons_self
      rw [List.foldl_cons, insert_of_lt hlt, ih _ (by simpa using ha)]
      simp
  exact hfold [] h

theorem get?_eq_none_iff : get? o key = none ↔ key ∉ o.map Prod.fst := by
  induction o with
  | nil => simp [get?]
  | cons m rest ih =>
    by_cases h : m.1 = key
    · simp [get?, h]
    · simp [get?, h, ih, Ne.symm h]

theorem mem_of_get? (h : get? o key = some v) : (key, v) ∈ o := by
  induction o with
  | nil => cases h
  | cons m rest ih =>
    unfold get? at h
    split_ifs at h with hk
    · obtain rfl := Option.some.inj h
      exact hk ▸ List.mem_cons_self
    · exact List.mem_cons_of_mem _ (ih h)

theorem get?_of_mem (h : (o.map Prod.fst).Nodup) (hm : (key, v) ∈ o) : get? o key = some v := by
  induction o with
  | nil => cases hm
  | cons m rest ih =>
    obtain ⟨hk, hrest⟩ := List.nodup_cons.mp h
    rcases List.mem_cons.mp hm with rfl | hm
    · simp [get?]
    · have hne : m.1 ≠ key := fun heq => hk (heq ▸ List.mem_map_of_mem hm)
      rw [get?, if_neg hne, ih hrest hm]

theorem Ascending.nodup (h : Ascending o) : (o.map Prod.fst).Nodup := h.imp fun hlt => ne_of_lt hlt

/-- What stands under each key determines the object. -/
theorem Ascending.ext {p : Object} (ho : Ascending o) (hp : Ascending p)
    (h : ∀ key, get? o key = get? p key) : o = p := by
  have hmem : ∀ m, m ∈ o ↔ m ∈ p := fun m =>
    ⟨fun hm => mem_of_get? (h m.1 ▸ get?_of_mem ho.nodup hm),
      fun hm => mem_of_get? (h m.1 ▸ get?_of_mem hp.nodup hm)⟩
  have hperm : o.Perm p :=
    (List.perm_ext_iff_of_nodup (ho.nodup.of_map _) (hp.nodup.of_map _)).mpr hmem
  -- no two members come before one another
  exact hperm.eq_of_pairwise (fun _ _ _ _ hlt hgt => absurd hgt (lt_asymm hlt))
    (List.pairwise_map.mp ho) (List.pairwise_map.mp hp)

end Fanout.Json.Object
