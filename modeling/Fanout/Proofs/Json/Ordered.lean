import Fanout.Json.Reader
import Fanout.Proofs.Json.RoundTrip

/-! Values that were read from a text have the keys of every object in order. -/
namespace Fanout.Json

theorem bind_eq_ok {ε α β : Type} {x : Except ε α} {k : α → Except ε β} {b : β} :
    (x >>= k) = .ok b ↔ ∃ a, x = .ok a ∧ k a = .ok b := by
  cases x <;> simp [bind, Except.bind]

theorem mapError_eq_ok {ε δ α : Type} {x : Except ε α} {f : ε → δ} {a : α} :
    x.mapError f = .ok a ↔ x = .ok a := by
  cases x <;> simp [Except.mapError]

namespace Value

theorem ordered_obj_iff {o : Object} :
    (obj o).Ordered ↔ Object.Ascending o ∧ ∀ m ∈ o, m.2.Ordered := by
  rw [Ordered, membersOrdered_iff]
  rfl

theorem nodup_of_ordered {o : Object} (h : (obj o).Ordered) : (o.map Prod.fst).Nodup :=
  (ordered_obj_iff.mp h).1.nodup

theorem ordered_of_get? {o : Object} {key : String} {v : Value} (ho : (obj o).Ordered)
    (h : o.get? key = some v) : v.Ordered :=
  (ordered_obj_iff.mp ho).2 _ (Object.mem_of_get? h)

theorem ordered_nil : (obj []).Ordered := ordered_obj_iff.mpr ⟨List.Pairwise.nil, by simp⟩

theorem ordered_insert {o : Object} {v : Value} (ho : (obj o).Ordered) (hv : v.Ordered)
    (key : String) : (obj (Object.insert o key v)).Ordered := by
  rw [ordered_obj_iff] at ho ⊢
  refine ⟨Object.ascending_insert ho.1 key v, fun m hm => ?_⟩
  rcases Object.mem_of_mem_insert hm with rfl | hm
  · exact hv
  · exact ho.2 m hm

/-- What one call reads is in order, if what was read before is. The induction is on the steps
left. -/
theorem ordered_of_read (fuel : Nat) :
    (∀ depth cs v rest, readValue fuel depth cs = .ok (v, rest) → v.Ordered) ∧
    (∀ depth first acc cs vs rest, (∀ v ∈ acc, Ordered v) →
      readItems fuel depth first acc cs = .ok (vs, rest) → ∀ v ∈ vs, Ordered v) ∧
    ∀ depth first acc cs ms rest, (obj acc).Ordered →
      readMembers fuel depth first acc cs = .ok (ms, rest) → (obj ms).Ordered := by
  induction fuel with
  | zero =>
    refine ⟨fun _ _ _ _ h => ?_, fun _ _ _ _ _ _ _ h => ?_, fun _ _ _ _ _ _ _ h => ?_⟩
    · simp [readValue, stopAt] at h
    · simp [readItems, stopAt] at h
    · simp [readMembers, stopAt] at h
  | succ fuel ih =>
    obtain ⟨hvalue, hitems, hmembers⟩ := ih
    refine ⟨fun depth cs v rest h => ?_, fun depth first acc cs vs rest hacc h => ?_,
      fun depth first acc cs ms rest hacc h => ?_⟩
    · unfold readValue at h
      split at h
      case h_1 => cases h
      case h_7 =>
        obtain ⟨inner, -, h⟩ := bind_eq_ok.mp h
        obtain ⟨⟨items, rest⟩, hread, h⟩ := bind_eq_ok.mp h
        cases h
        rw [Ordered, allOrdered_iff]
        exact hitems _ _ _ _ _ _ (by simp) hread
      case h_8 =>
        obtain ⟨inner, -, h⟩ := bind_eq_ok.mp h
        obtain ⟨⟨members, rest⟩, hread, h⟩ := bind_eq_ok.mp h
        cases h
        exact hmembers _ _ _ _ _ _ ordered_nil hread
      case h_9 =>
        split_ifs at h
        · obtain ⟨n, -, h⟩ := bind_eq_ok.mp h
          cases h
          trivial
        · cases h
      -- what remains is neither an array nor an object
      all_goals
        obtain ⟨a, -, h⟩ := bind_eq_ok.mp h
        cases h
        trivial
    · obtain ⟨next, -, h⟩ := bind_eq_ok.mp h
      cases next with
      | done rest =>
        cases h
        exact fun v hv => hacc v (List.mem_reverse.mp hv)
      | item cs =>
        obtain ⟨⟨v, rest⟩, hread, h⟩ := bind_eq_ok.mp h
        exact hitems _ _ _ _ _ _ (List.forall_mem_cons.mpr ⟨hvalue _ _ _ _ hread, hacc⟩) h
    · obtain ⟨next, -, h⟩ := bind_eq_ok.mp h
      cases next with
      | done rest =>
        cases h
        exact hacc
      | item cs =>
        obtain ⟨⟨key, rest⟩, -, h⟩ := bind_eq_ok.mp h
        obtain ⟨rest, -, h⟩ := bind_eq_ok.mp h
        obtain ⟨⟨v, rest⟩, hread, h⟩ := bind_eq_ok.mp h
        exact hmembers _ _ _ _ _ _ (ordered_insert hacc (hvalue _ _ _ _ hread) key) h

theorem ordered_of_parse {text : String} {v : Value} (h : parse text = .ok v) : v.Ordered := by
  obtain ⟨⟨w, rest⟩, hread, h⟩ := bind_eq_ok.mp (mapError_eq_ok.mp h)
  obtain ⟨_, -, h⟩ := bind_eq_ok.mp h
  cases h
  exact (ordered_of_read _).1 _ _ _ _ hread

end Value

end Fanout.Json
