import Fanout.Proofs.Json.Object
import Fanout.Settings.Merge

/-!
Objects laid over one another. Main statement: what stands under a key afterwards depends on what
stood under it in the two objects only.
-/
namespace Fanout.Json

/-- What is not an object is replaced. -/
theorem deepMerge_eq_right {old : Value} (h : ∀ ms, old ≠ .obj ms) (v : Value) :
    deepMerge old v = v := by
  cases v with
  | obj ms =>
    cases old with
    | obj base => exact absurd rfl (h base)
    | _ => rfl
  | _ => rfl

/-- What is not an object replaces. -/
theorem deepMerge_of_not_obj {v : Value} (h : ∀ ms, v ≠ .obj ms) (old : Value) :
    deepMerge old v = v := by
  cases v with
  | obj ms => exact absurd rfl (h ms)
  | _ => rfl

theorem Value.isNull_iff {v : Value} : v.isNull = true ↔ v = .null := by
  cases v <;> simp [isNull]

/-- The members of a value; one that is not an object has none. -/
def Value.members : Value → Object
  | .obj ms => ms
  | _ => []

namespace Object

variable {base source : Object} {key : String} {v : Value}

/-- The value under a key, where there is one other than `null`. -/
def member? (o : Object) (key : String) : Option Value := (o.get? key).filter fun v => !v.isNull

/-- The object under a key, which is empty where there is none. -/
def inner (o : Object) (key : String) : Object := ((o.member? key).map Value.members).getD []

theorem member?_cons_self (rest : Object) :
    member? ((key, v) :: rest) key = if v.isNull then none else some v := by
  cases h : v.isNull <;> simp [member?, get?, Option.filter, h]

theorem member?_cons_of_ne {k : String} (h : k ≠ key) (rest : Object) :
    member? ((k, v) :: rest) key = member? rest key := by
  simp [member?, get?, h]

theorem member?_eq_some_iff {o : Object} :
    o.member? key = some v ↔ o.get? key = some v ∧ v ≠ .null := by
  rw [member?, Option.filter_eq_some_iff, Bool.not_eq_true', ← Bool.not_eq_true, Value.isNull_iff]

theorem member?_eq_none_iff {o : Object} :
    o.member? key = none ↔ o.get? key = none ∨ o.get? key = some .null := by
  cases h : o.get? key with
  | none => simp [member?, h]
  | some w => simp [member?, h, Option.filter, Value.isNull_iff]

/-- One key after another is put in its place. -/
theorem ascending_mergeMembers (h : Ascending base) (source : Object) :
    Ascending (mergeMembers base source) := by
  induction source generalizing base with
  | nil => exact h
  | cons m rest ih =>
    unfold mergeMembers
    split_ifs
    · exact ih h
    · split <;> exact ih (ascending_insert h _ _)

theorem get?_mergeMembers_of_notMem (h : key ∉ source.map Prod.fst) :
    (mergeMembers base source).get? key = base.get? key := by
  induction source generalizing base with
  | nil => rfl
  | cons m rest ih =>
    rw [List.map_cons, List.mem_cons, not_or] at h
    unfold mergeMembers
    split_ifs
    · exact ih h.2
    · split <;> rw [ih h.2, get?_insert_of_ne _ _ h.1]

/-- Two objects under one key are merged, `null` and what is left out change nothing, and anything
else replaces. -/
theorem get?_mergeMembers (h : (source.map Prod.fst).Nodup) :
    (mergeMembers base source).get? key =
      match source.member? key with
      | none => base.get? key
      | some v => some ((base.get? key).elim v (deepMerge · v)) := by
  induction source generalizing base with
  | nil => rfl
  | cons m rest ih =>
    obtain ⟨k, w⟩ := m
    obtain ⟨hk, hrest⟩ := List.nodup_cons.mp h
    by_cases heq : k = key
    · -- the rest leaves this key alone
      subst heq
      unfold mergeMembers
      cases hw : w.isNull with
      | true => simp [member?_cons_self, hw, get?_mergeMembers_of_notMem hk]
      | false =>
        cases hb : base.get? k <;>
          simp [member?_cons_self, hw, get?_mergeMembers_of_notMem hk, get?_insert_self]
    · rw [member?_cons_of_ne heq]
      unfold mergeMembers
      split_ifs
      · exact ih hrest
      · split <;> rw [ih hrest, get?_insert_of_ne _ _ (Ne.symm heq)]

end Object

end Fanout.Json
