import Fanout.Text.Search
import Fanout.Text.Segments
import Mathlib.Data.List.Infix

/-! Names cut at their dots: one name stands above another if its parts come first. -/
namespace Fanout.Text

variable {p q t : List Char}

theorem afterHead?_eq_some_iff {head cs rest : List Char} :
    afterHead? head cs = some rest ↔ cs = head ++ rest := by
  fun_induction afterHead? head cs with
  | case1 cs => simp [eq_comm]
  | case2 h hs => simp
  | case3 hs c cs ih => simpa using ih
  | case4 h hs c cs hne => simp [Ne.symm hne]

theorem segments_eq_splitOn (cs : List Char) : segments cs = cs.splitOn '.' := by
  induction cs with
  | nil => rfl
  | cons c cs ih =>
    rw [segments, List.splitOn_cons_eq_if_modifyHead, ih]
    obtain ⟨s, rest, hs⟩ := List.exists_cons_of_ne_nil (List.splitOn_ne_nil '.' cs)
    by_cases hc : c = '.'
    · simp [hc]
    · simp [hc, hs]

theorem segments_append (p q : List Char) :
    segments (p ++ '.' :: q) = segments p ++ segments q := by
  simp only [segments_eq_splitOn, List.splitOn_append_cons_self]

theorem intercalate_segments (cs : List Char) : ['.'].intercalate (segments cs) = cs := by
  rw [segments_eq_splitOn, List.intercalate_splitOn]

theorem segments_inj : segments p = segments q ↔ p = q := by
  refine ⟨fun h => ?_, congrArg segments⟩
  rw [← intercalate_segments p, h, intercalate_segments]

theorem intercalate_append {xs ys : List (List Char)} (hx : xs ≠ []) (hy : ys ≠ []) :
    ['.'].intercalate (xs ++ ys) = ['.'].intercalate xs ++ '.' :: ['.'].intercalate ys := by
  induction xs with
  | nil => exact absurd rfl hx
  | cons x xs ih =>
    by_cases hxs : xs = []
    · simp [hxs, List.intercalate_cons_of_ne_nil hy]
    · rw [List.cons_append, List.intercalate_cons_of_ne_nil (by simp [hxs]), ih hxs,
        List.intercalate_cons_of_ne_nil hxs]
      simp

/-- The parts of `t` are those of `p` and then more. -/
def IsAbove (p t : List Char) : Prop := segments p <+: segments t ∧ segments p ≠ segments t

theorem isAbove_iff_exists : IsAbove p t ↔ ∃ q, t = p ++ '.' :: q := by
  constructor
  · rintro ⟨⟨more, hmore⟩, hne⟩
    have hmore_ne : more ≠ [] := by
      rintro rfl
      exact hne (by simpa using hmore)
    refine ⟨['.'].intercalate more, ?_⟩
    rw [← intercalate_segments t, ← hmore, intercalate_append (segments_ne_nil p) hmore_ne,
      intercalate_segments]
  · rintro ⟨q, rfl⟩
    rw [IsAbove, segments_append]
    exact ⟨List.prefix_append _ _, by simpa using segments_ne_nil q⟩

/-- The names below `p` are those that start with it and a dot. -/
theorem isAbove_iff_prefix : IsAbove p t ↔ p ++ ['.'] <+: t := by
  rw [isAbove_iff_exists, List.prefix_iff_exists_append_eq]
  simp [eq_comm]

theorem hasEmptySegment_append (p q : List Char) :
    hasEmptySegment (p ++ '.' :: q) = (hasEmptySegment p || hasEmptySegment q) := by
  simp only [hasEmptySegment, segments_append, List.any_append]

end Fanout.Text
