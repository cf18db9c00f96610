import Fanout.Proofs.Json.Ordered
import Fanout.Proofs.Settings.Merge

/-!
Laws of laying one value over another. Main statement: objects merge key by key, a value laid over
itself or a second time changes nothing, and what the upper value leaves out or gives as `null`
stays as it was, at any depth.
-/
namespace Fanout.Json

namespace Value

theorem sizeOf_lt_obj {ms : Object} {m : String × Value} (h : m ∈ ms) :
    sizeOf m.2 < sizeOf (obj ms) := by
  obtain ⟨key, v⟩ := m
  have hms := List.sizeOf_lt_of_mem h
  simp only [Prod.mk.sizeOf_spec, obj.sizeOf_spec] at hms ⊢
  omega

/-- What holds of an object whenever it holds of all its members, and of what is not an object,
holds of every value. -/
@[elab_as_elim]
theorem inductionOnMembers {motive : Value → Prop}
    (obj : ∀ ms : Object, (∀ m ∈ ms, motive m.2) → motive (.obj ms))
    (other : ∀ v, (∀ ms, v ≠ .obj ms) → motive v) : ∀ v, motive v
  | .obj ms => obj ms fun m _ => inductionOnMembers obj other m.2
  | .null | .bool _ | .num _ | .str _ | .arr _ => other _ fun _ h => Value.noConfusion h
termination_by v => sizeOf v
decreasing_by exact sizeOf_lt_obj ‹_›

end Value

variable {t s v : Value} {base source : Object} {key : String}

/-- Two objects are merged by way of the values under their common keys; otherwise the upper value
replaces the lower. -/
@[elab_as_elim]
theorem mergeInduction {motive : Value → Value → Prop} (t s : Value)
    (objects : ∀ base source : Object,
      (∀ key old v, base.get? key = some old → source.get? key = some v → motive old v) →
        motive (.obj base) (.obj source))
    (replaced : ∀ t s, deepMerge t s = s → motive t s) : motive t s := by
  induction s using Value.inductionOnMembers generalizing t with
  | other s hs => exact replaced t s (deepMerge_of_not_obj hs t)
  | obj source ih =>
    cases t with
    | obj base =>
      exact objects base source fun key old v _ hv => ih (key, v) (Object.mem_of_get? hv) old
    | _ => exact replaced _ _ rfl

namespace Object

/-- `merged` is `source` laid over `base`. -/
structure Overlay (base source merged : Object) : Prop where
  mem_keys : ∀ key, key ∈ merged.map Prod.fst ↔
    key ∈ base.map Prod.fst ∨ ∃ v, source.get? key = some v ∧ v ≠ .null
  kept : ∀ key, source.get? key = none ∨ source.get? key = some .null →
    merged.get? key = base.get? key
  added : ∀ key v, base.get? key = none → source.get? key = some v → v ≠ .null →
    merged.get? key = some v
  combined : ∀ key old v, base.get? key = some old → source.get? key = some v → v ≠ .null →
    merged.get? key = some (deepMerge old v)

/-- Where a value of the merge comes from. -/
theorem get?_mergeMembers_eq_some (h : (source.map Prod.fst).Nodup)
    (hv : (mergeMembers base source).get? key = some v) :
    base.get? key = some v ∨ source.get? key = some v ∨
      ∃ old new, base.get? key = some old ∧ source.get? key = some new ∧ deepMerge old new = v := by
  rw [get?_mergeMembers h] at hv
  cases hnew : source.member? key with
  | none => exact .inl (by simpa only [hnew] using hv)
  | some new =>
    have hsource := (member?_eq_some_iff.mp hnew).1
    cases hold : base.get? key with
    | none =>
      obtain rfl : new = v := by simpa [hnew, hold] using hv
      exact .inr (.inl hsource)
    | some old => exact .inr (.inr ⟨old, new, rfl, hsource, by simpa [hnew, hold] using hv⟩)

theorem mem_keys_mergeMembers (h : (source.map Prod.fst).Nodup) :
    key ∈ (mergeMembers base source).map Prod.fst ↔
      key ∈ base.map Prod.fst ∨ ∃ v, source.member? key = some v := by
  rw [← not_iff_not, not_or, ← get?_eq_none_iff, ← get?_eq_none_iff, get?_mergeMembers h]
  cases source.member? key <;> simp

theorem overlay_mergeMembers (base : Object) (h : (Value.obj source).Ordered) :
    Overlay base source (mergeMembers base source) := by
  have hnodup := Value.nodup_of_ordered h
  refine ⟨fun key => ?_, fun key hsilent => ?_, fun key v hbase hsource hv => ?_,
    fun key old v hbase hsource hv => ?_⟩
  · simp only [mem_keys_mergeMembers hnodup, member?_eq_some_iff]
  · rw [get?_mergeMembers hnodup, member?_eq_none_iff.mpr hsilent]
  · rw [get?_mergeMembers hnodup, member?_eq_some_iff.mpr ⟨hsource, hv⟩, hbase]
    rfl
  · rw [get?_mergeMembers hnodup, member?_eq_some_iff.mpr ⟨hsource, hv⟩, hbase]
    rfl

end Object

theorem deepMerge_self (h : v.Ordered) : deepMerge v v = v := by
  induction v using Value.inductionOnMembers with
  | other v hv => exact deepMerge_of_not_obj hv v
  | obj ms ih =>
    obtain ⟨hasc, hms⟩ := Value.ordered_obj_iff.mp h
    have hget : ∀ key, (mergeMembers ms ms).get? key = ms.get? key := by
      intro key
      rw [Object.get?_mergeMembers hasc.nodup]
      cases hv : ms.member? key with
      | none => rfl
      | some v =>
        have hv := (Object.member?_eq_some_iff.mp hv).1
        have hm := Object.mem_of_get? hv
        rw [hv]
        exact congrArg some (ih _ hm (hms _ hm))
    exact congrArg Value.obj ((Object.ascending_mergeMembers hasc ms).ext hasc hget)

/-- The merge of two values in order is in order. -/
theorem ordered_deepMerge (ht : t.Ordered) (hs : s.Ordered) : (deepMerge t s).Ordered := by
  induction t, s using mergeInduction with
  | replaced t s h => exact h.symm ▸ hs
  | objects base source ih =>
    have hasc := Object.ascending_mergeMembers (Value.ordered_obj_iff.mp ht).1 source
    refine Value.ordered_obj_iff.mpr ⟨hasc, fun m hm => ?_⟩
    have hget := Object.get?_of_mem hasc.nodup hm
    rcases Object.get?_mergeMembers_eq_some (Value.nodup_of_ordered hs) hget with
      hold | hnew | ⟨old, new, hold, hnew, hm⟩
    · exact Value.ordered_of_get? ht hold
    · exact Value.ordered_of_get? hs hnew
    · have hordered := ih _ old new hold hnew (Value.ordered_of_get? ht hold)
        (Value.ordered_of_get? hs hnew)
      exact hm ▸ hordered

/-- Laying a value over another a second time changes nothing. -/
theorem deepMerge_deepMerge_self (ht : t.Ordered) (hs : s.Ordered) :
    deepMerge (deepMerge t s) s = deepMerge t s := by
  induction t, s using mergeInduction with
  | replaced t s h => rw [h, deepMerge_self hs]
  | objects base source ih =>
    have hasc := Object.ascending_mergeMembers (Value.ordered_obj_iff.mp ht).1 source
    have hnodup := Value.nodup_of_ordered hs
    refine congrArg Value.obj ((Object.ascending_mergeMembers hasc source).ext hasc fun key => ?_)
    rw [Object.get?_mergeMembers hnodup]
    cases hv : source.member? key with
    | none => rfl
    | some v =>
      have hsource := (Object.member?_eq_some_iff.mp hv).1
      have hv' := Value.ordered_of_get? hs hsource
      rw [Object.get?_mergeMembers hnodup, hv]
      cases hbase : base.get? key with
      | none => exact congrArg some (deepMerge_self hv')
      | some old =>
        exact congrArg some (ih _ old v hbase hsource (Value.ordered_of_get? ht hbase) hv')

namespace Value

/-- The value at the end of a path of keys. -/
def at? (v : Value) : List String → Option Value
  | [] => some v
  | key :: path => (v.members.get? key).bind fun w => w.at? path

/-- The path comes to a key that the value leaves out or gives as `null`, through objects only. -/
def SilentOn (v : Value) (path : List String) : Prop :=
  ∃ front key back ms, path = front ++ key :: back ∧ v.at? front = some (.obj ms) ∧
    (Object.get? ms key = none ∨ Object.get? ms key = some .null)

/-- A path leads on through objects only. -/
theorem at?_cons_eq_some_iff {path : List String} {w : Value} :
    v.at? (key :: path) = some w ↔
      ∃ ms u, v = .obj ms ∧ Object.get? ms key = some u ∧ u.at? path = some w := by
  cases v with
  | obj ms => simp [at?, members, Option.bind_eq_some_iff]
  | _ => simp [at?, members, Object.get?]

theorem ne_null_of_at? {path : List String} {ms : Object} (h : v.at? path = some (.obj ms)) :
    v ≠ .null := by
  rintro rfl
  cases path with
  | nil => simp [at?] at h
  | cons key path => simp [at?, members, Object.get?] at h

end Value

/-- The induction follows the path through the objects of `s`, down to the key on which it is
silent. -/
theorem at?_deepMerge_of_silentOn {path : List String} (hs : s.Ordered)
    (ht : t.at? path = some v) (hsilent : s.SilentOn path) :
    (deepMerge t s).at? path = some v := by
  obtain ⟨front, key, back, ms, rfl, hfront, hkey⟩ := hsilent
  induction front generalizing t s with
  | nil =>
    obtain rfl : s = .obj ms := Option.some.inj hfront
    obtain ⟨base, old, rfl, hbase, hold⟩ := Value.at?_cons_eq_some_iff.mp ht
    have hover := Object.overlay_mergeMembers base hs
    exact Value.at?_cons_eq_some_iff.mpr ⟨_, old, rfl, (hover.kept key hkey).trans hbase, hold⟩
  | cons k front ih =>
    obtain ⟨source, inner, rfl, hsource, hinner⟩ := Value.at?_cons_eq_some_iff.mp hfront
    obtain ⟨base, old, rfl, hbase, hold⟩ := Value.at?_cons_eq_some_iff.mp ht
    have hover := Object.overlay_mergeMembers base hs
    exact Value.at?_cons_eq_some_iff.mpr ⟨_, _, rfl,
      hover.combined k old inner hbase hsource (Value.ne_null_of_at? hinner),
      ih (Value.ordered_of_get? hs hsource) hold hinner⟩

/-- A value over itself is that value, laying one over another twice is laying it once, two objects
merge key by key, and what stands at a path in the lower value stays where the upper one is silent.
Unless both are objects the upper value replaces the lower. The result is in order again. -/
theorem deepMerge_laws (ht : t.Ordered) (hs : s.Ordered) :
    deepMerge t t = t ∧
    deepMerge (deepMerge t s) s = deepMerge t s ∧
    (∀ base source, t = .obj base → s = .obj source →
      ∃ merged, deepMerge t s = .obj merged ∧ Object.Overlay base source merged) ∧
    (∀ path v, t.at? path = some v → s.SilentOn path → (deepMerge t s).at? path = some v) ∧
    ((∀ ms, t ≠ .obj ms) ∨ (∀ ms, s ≠ .obj ms) → deepMerge t s = s) ∧
    (deepMerge t s).Ordered := by
  refine ⟨deepMerge_self ht, deepMerge_deepMerge_self ht hs, ?_,
    fun path v hv hsilent => at?_deepMerge_of_silentOn hs hv hsilent, ?_, ordered_deepMerge ht hs⟩
  · rintro base source rfl rfl
    exact ⟨_, rfl, Object.overlay_mergeMembers base hs⟩
  · rintro (ht' | hs')
    · exact deepMerge_eq_right ht' s
    · exact deepMerge_of_not_obj hs' t

/-- A `null` under a key of a common object, one in place of an object, one in an object that is
new, an object that is left out, and an array that is replaced. -/
theorem deepMerge_laws_nulls :
    let base : Object :=
      [("bus", .obj [("capacity", .nat 8)]),
        ("server", .obj [("host", .str "a"), ("limits", .obj [("size", .nat 7)]),
          ("ports", .arr [.nat 80, .nat 81])])]
    let source : Object :=
      [("bus", .null), ("extra", .obj [("note", .null)]),
        ("server", .obj [("host", .null), ("ports", .arr [.null])])]
    let merged : Object :=
      [("bus", .obj [("capacity", .nat 8)]), ("extra", .obj [("note", .null)]),
        ("server", .obj [("host", .str "a"), ("limits", .obj [("size", .nat 7)]),
          ("ports", .arr [.null])])]
    (Value.obj base).Ordered ∧ (Value.obj source).Ordered ∧ (Value.obj merged).Ordered ∧
    deepMerge (.obj base) (.obj source) = .obj merged ∧
    deepMerge (.obj base) (.obj base) = .obj base ∧
    deepMerge (.obj merged) (.obj source) = .obj merged ∧
    Object.Overlay base source merged ∧
    (Value.obj merged).at? ["server", "host"] = some (.str "a") ∧
    (Value.obj merged).at? ["server", "limits", "size"] = some (.nat 7) ∧
    (Value.obj merged).at? ["bus", "capacity"] = some (.nat 8) := by
  intro base source merged
  have hbase : (Value.obj base).Ordered := by
    simp +decide only [base, Value.Ordered, Value.MembersOrdered, Value.AllOrdered, Value.nat,
      List.map_cons, List.map_nil, and_self]
  have hsource : (Value.obj source).Ordered := by
    simp +decide only [source, Value.Ordered, Value.MembersOrdered, Value.AllOrdered, List.map_cons,
      List.map_nil, and_self]
  have hmerged : deepMerge (.obj base) (.obj source) = .obj merged := rfl
  obtain ⟨hself, htwice, hobjects, hpath, -, hordered⟩ := deepMerge_laws hbase hsource
  obtain ⟨_, heq, hover⟩ := hobjects base source rfl rfl
  rw [hmerged] at htwice hpath hordered heq
  obtain rfl := Value.obj.inj heq
  refine ⟨hbase, hsource, hordered, hmerged, hself, htwice, hover, ?_, ?_, ?_⟩
  · exact hpath _ _ rfl ⟨["server"], "host", [], _, rfl, rfl, .inr rfl⟩
  · exact hpath _ _ rfl ⟨["server"], "limits", ["size"], _, rfl, rfl, .inl rfl⟩
  · exact hpath _ _ rfl ⟨[], "bus", ["capacity"], _, rfl, rfl, .inr rfl⟩

end Fanout.Json
